import Articulation.Proofs.Pruning
/-!
What is done to a tree once it is built: prunings and associations, in any number and order. A tree
that is built for a description is the tree of its links whichever root is asked for, and in every
tree that is built no name occurs twice.
-/
set_option autoImplicit false

namespace Articulation

inductive Stage where
  | prune (rule : PruneRule)
  | associate (source : CollisionSource) (lookup : Option Lookup) (required : Bool)

namespace Stage

/-- The tree that there is afterwards. Also an association that fails leaves one behind. -/
def leaves : Stage → Tree → Tree
  | prune rule, t => t.prune rule
  | associate source lookup required, t =>
    (Articulation.associate source lookup required t).apply t

def run : Stage → Tree → Except Failure Tree
  | prune rule, t => (pruneTree rule t).result.mapError .description
  | associate source lookup required, t =>
    (associateCollisions source lookup required t).result

end Stage

def Tree.after (t : Tree) (stages : List Stage) : Tree :=
  stages.foldl (fun t stage => stage.leaves t) t

/-- One stage after the other as long as none of them fails. -/
def runAll (stages : List Stage) (t : Tree) : Except Failure Tree :=
  stages.foldlM (fun t stage => stage.run t) t

variable {source : CollisionSource} {lookup : Option Lookup} {required : Bool} {t u : Tree}

theorem associateCollisions_ok
    (h : (associateCollisions source lookup required t).result = .ok u) :
    (associate source lookup required t).failure = none ∧
      u = (associate source lookup required t).apply t := by
  unfold associateCollisions at h
  cases failed : (associate source lookup required t).failure with
  | some f =>
    simp only [failed] at h
    contradiction
  | none =>
    simp only [failed] at h
    exact ⟨rfl, (Except.ok.inj h).symm⟩

theorem Stage.exists_thins (stage : Stage) (t : Tree) :
    ∃ keep f, Node.Thins keep f ∧ stage.leaves t = { t with root := f t.root } := by
  cases stage with
  | prune rule => exact ⟨_, _, Node.thins_prune rule, rfl⟩
  | associate source lookup required => exact ⟨_, _, Node.thins_attach _, rfl⟩

section Built

variable {links : Roster Link} {joints : Roster Joint} {root robotName : String}

theorem buildTree_ok (h : (buildTree links joints root robotName).result = .ok t) :
    ∃ link, links.find? root = some link ∧ joints.find? root = none ∧
      t = ⟨robotName, grow (edges links joints) links.size link none⟩ ∧
      ∀ name ∈ links.names, name ∈ t.names := by
  unfold buildTree at h
  cases found : links.find? root with
  | none =>
    rw [found] at h
    contradiction
  | some link =>
    rw [found] at h
    cases free : joints.find? root with
    | some j =>
      rw [free] at h
      contradiction
    | none =>
      rw [free] at h
      simp only [Traced.result_bind, Traced.result_liftM, Traced.result_record] at h
      obtain ⟨_, _, h⟩ := bind_eq_ok.1 h
      rw [ok_bind] at h
      split at h
      next => contradiction
      next none_lost =>
        simp only [Traced.result_bind, Traced.result_note, ok_bind] at h
        cases h
        refine ⟨link, rfl, rfl, rfl, fun name listed => ?_⟩
        simpa using List.filter_eq_nil_iff.1 none_lost name listed

theorem root_notMem_edges_of_free (keyed : ∀ e ∈ links.entries, e.2.name = e.1)
    (free : joints.find? root = none) :
    root ∉ (edges links joints).map fun e => e.1.name := by
  rw [names_edges keyed, List.mem_filter, Roster.contains, free]
  simp

theorem names_buildTree_nodup (distinct : links.names.Nodup)
    (keyed : ∀ e ∈ links.entries, e.2.name = e.1)
    (h : (buildTree links joints root robotName).result = .ok t) : t.names.Nodup := by
  obtain ⟨link, found, free, rfl, -⟩ := buildTree_ok h
  have named : link.name = root := keyed _ (Roster.mem_entries_of_find? found)
  have edges_distinct : ((edges links joints).map fun e => e.1.name).Nodup := by
    rw [names_edges keyed]
    exact distinct.filter _
  refine names_grow_nodup edges_distinct ?_ links.size robotName
  rw [named]
  exact root_notMem_edges_of_free keyed free

theorem collision_buildTree (h : (buildTree links joints root robotName).result = .ok t) :
    ∀ n ∈ t.walk, n.collision = none := by
  obtain ⟨link, -, -, rfl, -⟩ := buildTree_ok h
  exact fun n hn => collision_grow hn

end Built

namespace Description

variable {d : Description} {root robotName : String}

/-- A tree cannot be built from any link but the one that no joint claims. -/
theorem Consistent.linkTree_of_buildTree (hd : d.Consistent)
    (h : (buildTree d.links d.joints root robotName).result = .ok t) :
    (d.linkTree robotName).result = .ok t := by
  obtain ⟨link, found, free, rfl, all⟩ := buildTree_ok h
  obtain ⟨-, rfl⟩ := hd.find?_link.1 found
  have listed : link.name ∈ d.links.names :=
    (Roster.contains_iff _ _).1 (by rw [Roster.contains, found]; rfl)
  -- every other link of the tree hangs on an edge, so a joint claims it
  have claimed : ∀ name ∈ d.links.names, d.joints.find? name = none → name = link.name := by
    intro name hname unclaimed
    have walked := all name hname
    rw [names_grow, List.mem_cons] at walked
    rcases walked with top | below
    · exact top
    · obtain ⟨e, he, rfl⟩ := List.mem_map.1 below
      obtain ⟨k, -, he⟩ := List.mem_flatMap.1 he
      obtain ⟨-, hj, claims⟩ := hd.mem_edges.1 (mem_of_mem_generation he)
      rw [hd.find?_joint.2 ⟨hj, claims⟩] at unclaimed
      contradiction
  have only : unclaimed d.links d.joints = [link.name] := by
    refine List.perm_singleton.1 ?_
    refine (List.perm_ext_iff_of_nodup (hd.links_nodup.filter _) (List.nodup_singleton _)).2 ?_
    intro name
    rw [List.mem_filter, List.mem_singleton, Bool.not_eq_true', Roster.contains,
      Option.isSome_eq_false_iff, Option.isNone_iff_eq_none]
    constructor
    · rintro ⟨hname, unclaimed⟩
      exact claimed name hname unclaimed
    · rintro rfl
      exact ⟨listed, free⟩
  unfold linkTree findRoot
  rw [only]
  exact h

theorem Derives.after (h : d.Derives t) (stages : List Stage) : d.Derives (t.after stages) := by
  induction stages generalizing t with
  | nil => exact h
  | cons stage stages ih =>
    refine ih ?_
    cases stage with
    | prune rule => exact .pruned rule h
    | associate source lookup required => exact .associated source lookup required h

theorem Consistent.derives_after (hd : d.Consistent)
    (h : (buildTree d.links d.joints root robotName).result = .ok t) (stages : List Stage) :
    d.Derives (t.after stages) :=
  (Derives.grown (hd.linkTree_of_buildTree h)).after stages

end Description

end Articulation
