import Articulation.Proofs.Generations
/-!
When the joints of a description form a tree. `Spans` says it of links and joints alone: one link is
unclaimed, and from every link the parents of its joints lead up to that one. Whether or not it is
so, the tree below the unclaimed link holds just the links that lead up to it, each of them once.
-/
set_option autoImplicit false

namespace Articulation

namespace Description

/-- Going from a link to the parent of the joint that claims it, again and again, leads to `r`. -/
inductive Climbs (d : Description) (r : String) : String → Prop where
  | here : Climbs d r r
  | up {j : Joint} (listed : j ∈ d.joints.values) (above : Climbs d r j.parent) :
      Climbs d r j.child

/-- One step on that way. -/
def HangsOn (d : Description) (child parent : String) : Prop :=
  ∃ j ∈ d.joints.values, j.child = child ∧ j.parent = parent

def Cyclic (d : Description) : Prop := ∃ name, Relation.TransGen d.HangsOn name name

/-- The links that no joint has as its child, in the order of their declaration. -/
def unclaimedLinks (d : Description) : List String :=
  d.links.names.filter fun name => d.joints.values.all fun j => j.child != name

structure Spans (d : Description) (r : String) : Prop where
  unclaimed : d.unclaimedLinks = [r]
  climbs : ∀ name ∈ d.links.names, d.Climbs r name

def childLinks (d : Description) (parent : String) : List String :=
  d.links.names.filter fun name =>
    d.joints.values.any fun j => j.child == name && j.parent == parent

/-- A work queue with the links that are taken from it until it is empty. Behind a link that is
taken its children line up. -/
inductive Serves (d : Description) : List String → List String → Prop where
  | done : Serves d [] []
  | take {name : String} {queue taken : List String}
      (rest : Serves d (queue ++ d.childLinks name) taken) :
      Serves d (name :: queue) (name :: taken)

def edges (d : Description) : List (Link × Joint) := Articulation.edges d.links d.joints

variable {d : Description}

theorem Consistent.names_joints (hd : d.Consistent) :
    d.joints.names = d.joints.values.map (·.child) := Roster.names_of_keyed hd.joint_listed

theorem Consistent.names_links (hd : d.Consistent) :
    d.links.names = d.links.values.map (·.name) := Roster.names_of_keyed hd.link_listed

theorem Consistent.find?_link (hd : d.Consistent) {l : Link} {name : String} :
    d.links.find? name = some l ↔ l ∈ d.links.values ∧ l.name = name :=
  Roster.find?_of_keyed hd.link_listed hd.links_nodup

theorem Consistent.find?_joint (hd : d.Consistent) {j : Joint} {name : String} :
    d.joints.find? name = some j ↔ j ∈ d.joints.values ∧ j.child = name :=
  Roster.find?_of_keyed hd.joint_listed hd.joints_nodup

theorem Consistent.mem_edges (hd : d.Consistent) {e : Link × Joint} :
    e ∈ d.edges ↔ e.1 ∈ d.links.values ∧ e.2 ∈ d.joints.values ∧ e.2.child = e.1.name := by
  unfold edges Articulation.edges
  rw [List.mem_filterMap]
  constructor
  · rintro ⟨⟨name, l⟩, hl, h⟩
    obtain ⟨j, hj, rfl⟩ := Option.map_eq_some_iff.1 h
    obtain ⟨listed, claims⟩ := hd.find?_joint.1 hj
    have key : l.name = name := hd.link_listed _ hl
    exact ⟨List.mem_map.2 ⟨_, hl, rfl⟩, listed, by rw [claims, key]⟩
  · rintro ⟨hl, listed, claims⟩
    obtain ⟨⟨name, l⟩, hentry, hl⟩ := List.mem_map.1 hl
    have key : l.name = name := hd.link_listed _ hentry
    refine ⟨(name, l), hentry, ?_⟩
    have found : d.joints.find? name = some e.2 :=
      hd.find?_joint.2 ⟨listed, by rw [claims, ← hl, key]⟩
    simp only at hl
    simp [found, hl]

theorem Consistent.names_childrenOf (hd : d.Consistent) (parent : String) :
    (childrenOf d.edges parent).map (fun e => e.1.name) = d.childLinks parent := by
  refine (names_filter_edges hd.link_listed d.joints fun j => j.parent == parent).trans ?_
  refine List.filter_congr fun name _ => ?_
  rw [Bool.eq_iff_iff, Option.any_eq_true, List.any_eq_true]
  constructor
  · rintro ⟨j, found, above⟩
    obtain ⟨listed, claims⟩ := hd.find?_joint.1 found
    exact ⟨j, listed, by simp [claims, eq_of_beq above]⟩
  · rintro ⟨j, listed, h⟩
    rw [Bool.and_eq_true, beq_iff_eq] at h
    exact ⟨j, hd.find?_joint.2 ⟨listed, h.1⟩, h.2⟩

theorem Consistent.edges_nodup (hd : d.Consistent) :
    (d.edges.map fun e => e.1.name).Nodup := by
  rw [edges, names_edges hd.link_listed]
  exact hd.links_nodup.filter _

theorem Consistent.contains_joint (hd : d.Consistent) (name : String) :
    d.joints.contains name = true ↔ ∃ j ∈ d.joints.values, j.child = name := by
  rw [Roster.contains_iff, hd.names_joints, List.mem_map]

theorem Consistent.unclaimed_eq (hd : d.Consistent) :
    unclaimed d.links d.joints = d.unclaimedLinks := by
  unfold unclaimed unclaimedLinks
  refine List.filter_congr fun name _ => ?_
  rw [Bool.eq_iff_iff, Bool.not_eq_true', ← Bool.not_eq_true, hd.contains_joint]
  simp

/-- The tree that grows from a link, whether or not it comes to hold every link. -/
def treeBelow (d : Description) (robotName : String) (root : Link) : Tree :=
  ⟨robotName, grow d.edges d.links.size root none⟩

section Unclaimed

variable {root : Link}

theorem Consistent.edge_of_joint (hd : d.Consistent) {j : Joint} (hj : j ∈ d.joints.values) :
    ∃ l, (l, j) ∈ d.edges ∧ l.name = j.child := by
  have listed := hd.child_mem hj
  rw [hd.names_links, List.mem_map] at listed
  obtain ⟨l, hl, key⟩ := listed
  exact ⟨l, hd.mem_edges.2 ⟨hl, hj, key.symm⟩, key⟩

theorem Consistent.climbs_iff (hd : d.Consistent) {r name : String} :
    d.Climbs r name ↔ name = r ∨ ∃ k, ∃ e ∈ generation d.edges r k, e.1.name = name := by
  constructor
  · intro h
    -- a joint whose parent lies at depth `k` leads to a link at depth `k + 1`
    induction h with
    | here => exact .inl rfl
    | @up j listed above ih =>
      obtain ⟨l, hl, key⟩ := hd.edge_of_joint listed
      rcases ih with top | ⟨k, p, hp, parent⟩
      · exact .inr ⟨0, (l, j), mem_generation_zero.2 ⟨hl, top⟩, key⟩
      · exact .inr ⟨k + 1, (l, j), mem_generation_succ.2 ⟨hl, p, hp, parent.symm⟩, key⟩
  · rintro (rfl | ⟨k, e, he, rfl⟩)
    · exact .here
    · induction k generalizing e with
      | zero =>
        obtain ⟨listed, parent⟩ := mem_generation_zero.1 he
        obtain ⟨-, hj, key⟩ := hd.mem_edges.1 listed
        rw [← key]
        exact .up hj (by rw [parent]; exact .here)
      | succ k ih =>
        obtain ⟨listed, p, hp, parent⟩ := mem_generation_succ.1 he
        obtain ⟨-, hj, key⟩ := hd.mem_edges.1 listed
        rw [← key]
        exact .up hj (by rw [parent]; exact ih p hp)

variable (hd : d.Consistent) (unclaimed : d.unclaimedLinks = [root.name])

include unclaimed

theorem root_mem : root.name ∈ d.links.names := by
  have h : root.name ∈ d.unclaimedLinks := by simp [unclaimed]
  exact List.mem_of_mem_filter h

theorem child_ne_root {j : Joint} (hj : j ∈ d.joints.values) : j.child ≠ root.name := by
  have h : root.name ∈ d.unclaimedLinks := by simp [unclaimed]
  have free := (List.mem_filter.1 h).2
  simpa using List.all_eq_true.1 free j hj

include hd

theorem find?_joint_root : d.joints.find? root.name = none := by
  cases h : d.joints.find? root.name with
  | none => rfl
  | some j =>
    obtain ⟨hj, key⟩ := hd.find?_joint.1 h
    exact absurd key (child_ne_root unclaimed hj)

theorem root_notMem_edges : root.name ∉ d.edges.map fun e => e.1.name := by
  intro h
  obtain ⟨e, he, name⟩ := List.mem_map.1 h
  obtain ⟨-, hj, key⟩ := hd.mem_edges.1 he
  exact child_ne_root unclaimed hj (key.trans name)

theorem size_links : d.links.size = d.joints.size + 1 := by
  -- the claimed links are as many as the joints, and one link is left
  have claimed : (d.links.names.filter d.joints.contains).Perm d.joints.names := by
    refine (List.perm_ext_iff_of_nodup (hd.links_nodup.filter _) hd.joints_nodup).2 fun name => ?_
    rw [List.mem_filter, Roster.contains_iff, and_iff_right_iff_imp, hd.names_joints]
    intro h
    obtain ⟨j, hj, rfl⟩ := List.mem_map.1 h
    exact hd.child_mem hj
  have free := congrArg List.length (hd.unclaimed_eq.trans unclaimed)
  have parts := List.length_eq_length_filter_add (l := d.links.names) d.joints.contains
  rw [claimed.length_eq] at parts
  simp only [Articulation.unclaimed, List.length_singleton] at free
  simp only [Roster.names, List.length_map] at parts free
  simp only [Roster.size]
  omega

theorem generation_ended {k : Nat} (h : d.links.size ≤ k) :
    generation d.edges root.name k = [] := by
  refine generation_eq_nil hd.edges_nodup (root_notMem_edges hd unclaimed) ?_
  have fewer : d.edges.length ≤ d.links.size := List.length_filterMap_le _ _
  omega

theorem mem_names_treeBelow {robotName name : String} :
    name ∈ (d.treeBelow robotName root).names ↔ d.Climbs root.name name := by
  rw [treeBelow, names_grow, List.mem_cons, hd.climbs_iff]
  refine or_congr_right ?_
  simp only [List.mem_map, List.mem_flatMap, List.mem_range]
  constructor
  · rintro ⟨e, ⟨k, -, he⟩, rfl⟩
    exact ⟨k, e, he, rfl⟩
  · rintro ⟨k, e, he, rfl⟩
    refine ⟨e, ⟨k, ?_, he⟩, rfl⟩
    by_contra late
    rw [generation_ended hd unclaimed (Nat.le_of_not_lt late)] at he
    simp at he

theorem names_treeBelow_nodup (robotName : String) :
    (d.treeBelow robotName root).names.Nodup :=
  names_grow_nodup hd.edges_nodup (root_notMem_edges hd unclaimed) _ robotName

theorem children_of_mem_treeBelow {robotName : String} {n : Node}
    (hn : n ∈ (d.treeBelow robotName root).walk) :
    n.children.map Node.bare = (childrenOf d.edges n.name).map leaf :=
  children_of_mem_walk_grow (generation_ended hd unclaimed (Nat.le_refl _)) hn

theorem names_children_treeBelow {robotName : String} {n : Node}
    (hn : n ∈ (d.treeBelow robotName root).walk) :
    n.children.map Node.name = d.childLinks n.name := by
  have bare := congrArg (List.map Node.name) (children_of_mem_treeBelow hd unclaimed hn)
  rw [List.map_map, List.map_map] at bare
  exact bare.trans (hd.names_childrenOf n.name)

omit hd unclaimed in
theorem below_treeBelow (d : Description) (robotName : String) (root : Link) :
    (Node.forest (d.treeBelow robotName root).root.children).map Node.bare =
      ((List.range d.links.size).flatMap (generation d.edges root.name)).map leaf := by
  have h := walk_grow d.edges d.links.size root none
  rw [Node.walk_eq, List.map_cons] at h
  exact (List.cons.inj h).2

omit hd unclaimed in
theorem mem_below_treeBelow {robotName : String} {n : Node}
    (hn : n ∈ Node.forest (d.treeBelow robotName root).root.children) :
    ∃ e ∈ d.edges, n.link = e.1 ∧ n.joint = some e.2 := by
  have h := List.mem_map_of_mem (f := Node.bare) hn
  rw [below_treeBelow] at h
  obtain ⟨e, he, same⟩ := List.mem_map.1 h
  obtain ⟨k, -, he⟩ := List.mem_flatMap.1 he
  refine ⟨e, mem_of_mem_generation he, ?_, ?_⟩
  · exact (congrArg Node.link same).symm
  · exact (congrArg Node.joint same).symm

theorem serves_treeBelow (robotName : String) :
    d.Serves [root.name] (d.treeBelow robotName root).names := by
  -- of a queue it only matters that all its nodes belong to the tree
  have serves (queue : List Node) (h : ∀ n ∈ queue, n ∈ (d.treeBelow robotName root).walk) :
      d.Serves (queue.map Node.name) ((Node.queueWalk queue).map Node.name) := by
    induction queue using Node.queueWalk.induct with
    | case1 =>
      rw [Node.queueWalk]
      exact .done
    | case2 n queue ih =>
      have here := h n List.mem_cons_self
      rw [Node.queueWalk, List.map_cons, List.map_cons]
      refine .take ?_
      rw [← names_children_treeBelow hd unclaimed here, ← List.map_append]
      refine ih fun m hm => ?_
      rcases List.mem_append.1 hm with waiting | child
      · exact h m (List.mem_cons_of_mem _ waiting)
      · exact Node.walk_closed here child
  have all := serves [(d.treeBelow robotName root).root] fun n hn => by
    rw [List.mem_singleton] at hn
    exact hn ▸ Node.self_mem_walk _
  rw [← Node.walk_eq_queueWalk] at all
  have named : (d.treeBelow robotName root).root.name = root.name := by
    simp only [treeBelow, Node.name, link_grow]
  rwa [List.map_singleton, named] at all

omit hd unclaimed in
theorem Consistent.parent_unique (hd : d.Consistent) {child p q : String} (hp : d.HangsOn child p)
    (hq : d.HangsOn child q) : p = q := by
  obtain ⟨i, hi, child_i, rfl⟩ := hp
  obtain ⟨j, hj, child_j, rfl⟩ := hq
  have same := (hd.find?_joint.2 ⟨hi, child_i⟩).symm.trans (hd.find?_joint.2 ⟨hj, child_j⟩)
  rw [Option.some.inj same]

/-- A link from which the root is reached lies on no cycle. -/
theorem not_cyclic_of_climbs {name : String} (h : d.Climbs root.name name) :
    ¬Relation.TransGen d.HangsOn name name := by
  induction h with
  | here =>
    intro round
    obtain ⟨_, ⟨j, hj, claims, _⟩, _⟩ := Relation.TransGen.head'_iff.1 round
    exact child_ne_root unclaimed hj claims
  | @up j listed above ih =>
    intro round
    have first : d.HangsOn j.child j.parent := ⟨j, listed, rfl, rfl⟩
    obtain ⟨p, step, back⟩ := Relation.TransGen.head'_iff.1 round
    rw [← hd.parent_unique first step] at back
    exact ih (Relation.TransGen.tail' back first)

omit hd in
theorem claimed_of_ne_root {name : String} (listed : name ∈ d.links.names)
    (ne : name ≠ root.name) : ∃ j ∈ d.joints.values, j.child = name := by
  have h : name ∉ d.unclaimedLinks := by simpa [unclaimed] using ne
  simpa [unclaimedLinks, listed] using h

/-- There are finitely many links, so a way up that never ends comes back to where it was. -/
theorem climbs_of_not_cyclic (acyclic : ¬d.Cyclic) {name : String}
    (listed : name ∈ d.links.names) : d.Climbs root.name name := by
  -- without a cycle the links above a link form a finite strict order, hence a founded one
  let above (a b : {name // name ∈ d.links.names}) : Prop := Relation.TransGen d.HangsOn b.1 a.1
  have : IsTrans _ above := ⟨fun _ _ _ ab bc => Relation.TransGen.trans bc ab⟩
  have : Std.Irrefl above := ⟨fun a round => acyclic ⟨a.1, round⟩⟩
  have founded : WellFounded above := Finite.wellFounded_of_trans_of_irrefl above
  suffices all : ∀ a : {name // name ∈ d.links.names}, d.Climbs root.name a.1 from
    all ⟨name, listed⟩
  intro a
  induction a using founded.induction with
  | _ a ih =>
    by_cases top : a.1 = root.name
    · rw [top]
      exact .here
    · obtain ⟨j, hj, claims⟩ := claimed_of_ne_root unclaimed a.2 top
      have step : d.HangsOn a.1 j.parent := ⟨j, hj, claims, rfl⟩
      rw [← claims]
      exact .up hj (ih ⟨j.parent, hd.parent_mem hj⟩ (Relation.TransGen.single step))

theorem all_climb_iff :
    (∀ name ∈ d.links.names, d.Climbs root.name name) ↔ ¬d.Cyclic := by
  constructor
  · rintro all ⟨name, round⟩
    obtain ⟨_, ⟨j, hj, rfl, _⟩, _⟩ := Relation.TransGen.head'_iff.1 round
    exact not_cyclic_of_climbs hd unclaimed (all _ (hd.child_mem hj)) round
  · intro acyclic name listed
    exact climbs_of_not_cyclic hd unclaimed acyclic listed

end Unclaimed

end Description

end Articulation
