import Articulation.Proofs.Records
import Articulation.Proofs.Walk
import Articulation.Tree.Build
/-!
The tree that grows from a link, generation by generation. `walk_grow` lists the nodes of the tree
as the generations of edges one after the other; below an unclaimed link no edge occurs twice in
them, so that there are at most as many generations as links and the bound of `grow` is never felt.
-/
set_option autoImplicit false

namespace Articulation

open Node (forest forest_eq walk_eq)

def leaf (e : Link × Joint) : Node := .mk e.1 (some e.2) none []

/-- The edges that hang on the links at the lower ends of some edges. -/
def offspring (es gs : List (Link × Joint)) : List (Link × Joint) :=
  gs.flatMap fun e => childrenOf es e.1.name

/-- The edges at a given depth below a link. -/
def generation (es : List (Link × Joint)) (root : String) (k : Nat) : List (Link × Joint) :=
  (offspring es)^[k] (childrenOf es root)

namespace Node

def bare (n : Node) : Node := .mk n.link n.joint n.collision []

end Node

variable {es gs : List (Link × Joint)} {root : String}

theorem bare_grow (es : List (Link × Joint)) (bound : Nat) (e : Link × Joint) :
    (grow es bound e.1 (some e.2)).bare = leaf e := by
  cases bound <;> rfl

theorem link_grow (es : List (Link × Joint)) (bound : Nat) (l : Link) (j : Option Joint) :
    (grow es bound l j).link = l := by
  cases bound <;> rfl

theorem joint_grow (es : List (Link × Joint)) (bound : Nat) (l : Link) (j : Option Joint) :
    (grow es bound l j).joint = j := by
  cases bound <;> rfl

/-- The trees of a given height that grow from some edges. -/
def grown (es : List (Link × Joint)) (bound : Nat) (gs : List (Link × Joint)) : List Node :=
  gs.map fun e => grow es bound e.1 (some e.2)

theorem children_grow_succ (es : List (Link × Joint)) (bound : Nat) (l : Link) (j : Option Joint) :
    (grow es (bound + 1) l j).children = grown es bound (childrenOf es l.name) := rfl

theorem flatMap_children_grown (es : List (Link × Joint)) (bound : Nat)
    (gs : List (Link × Joint)) :
    (grown es (bound + 1) gs).flatMap Node.children = grown es bound (offspring es gs) := by
  simp [grown, offspring, List.flatMap_map, List.map_flatMap, children_grow_succ]

theorem flatMap_children_grown_zero (es gs : List (Link × Joint)) :
    (grown es 0 gs).flatMap Node.children = [] := by
  simp [grown, List.flatMap_map, grow, Node.children]

theorem bare_grown (es : List (Link × Joint)) (bound : Nat) (gs : List (Link × Joint)) :
    (grown es bound gs).map Node.bare = gs.map leaf := by
  simp [grown, Function.comp_def, bare_grow]

theorem forest_grown (es : List (Link × Joint)) (bound : Nat) (gs : List (Link × Joint)) :
    (forest (grown es bound gs)).map Node.bare =
      ((List.range (bound + 1)).flatMap fun k => (offspring es)^[k] gs).map leaf := by
  induction bound generalizing gs with
  | zero =>
    rw [forest_eq, flatMap_children_grown_zero, List.map_append, bare_grown]
    simp
  | succ bound ih =>
    rw [forest_eq, flatMap_children_grown, List.map_append, bare_grown, ih,
      List.range_succ_eq_map (n := bound + 1), List.flatMap_cons, List.flatMap_map,
      List.map_append]
    rfl

/-- The walk of a grown tree: the root, then generation after generation. -/
theorem walk_grow (es : List (Link × Joint)) (bound : Nat) (l : Link) (j : Option Joint) :
    (grow es bound l j).walk.map Node.bare =
      .mk l j none [] :: ((List.range bound).flatMap (generation es l.name)).map leaf := by
  cases bound with
  | zero => rfl
  | succ bound =>
    rw [walk_eq, List.map_cons, children_grow_succ, forest_grown]
    rfl

theorem names_grow (es : List (Link × Joint)) (bound : Nat) (l : Link) (robotName : String) :
    (Tree.mk robotName (grow es bound l none)).names =
      l.name :: ((List.range bound).flatMap (generation es l.name)).map fun e => e.1.name := by
  have h := congrArg (List.map Node.name) (walk_grow es bound l none)
  rw [List.map_map] at h
  refine Eq.trans h ?_
  simp only [List.map_cons, List.map_map]
  rfl

theorem collision_grow {es : List (Link × Joint)} {bound : Nat} {l : Link} {n : Node}
    (hn : n ∈ (grow es bound l none).walk) : n.collision = none := by
  have bare := List.mem_map_of_mem (f := Node.bare) hn
  rw [walk_grow, List.mem_cons] at bare
  rcases bare with top | below
  · exact congrArg Node.collision top
  · obtain ⟨e, _, same⟩ := List.mem_map.1 below
    exact (congrArg Node.collision same).symm

/-- Where the generations have come to an end the bound of `grow` cuts nothing off. -/
theorem children_of_mem_forest_grown {bound : Nat} (ended : (offspring es)^[bound + 1] gs = [])
    {n : Node} (hn : n ∈ forest (grown es bound gs)) :
    n.children.map Node.bare = (childrenOf es n.name).map leaf := by
  induction bound generalizing gs with
  | zero =>
    have top : n ∈ grown es 0 gs := by
      rw [forest_eq, flatMap_children_grown_zero] at hn
      simpa using hn
    obtain ⟨e, he, rfl⟩ := List.mem_map.1 top
    have none_left : childrenOf es e.1.name = [] :=
      List.flatMap_eq_nil_iff.1 ended e he
    have named : (grow es 0 e.1 (some e.2)).name = e.1.name := rfl
    rw [named, none_left]
    rfl
  | succ bound ih =>
    rw [forest_eq, flatMap_children_grown, List.mem_append] at hn
    rcases hn with top | below
    · obtain ⟨e, _, rfl⟩ := List.mem_map.1 top
      rw [children_grow_succ, bare_grown, Node.name, link_grow]
    · exact ih ended below

theorem children_of_mem_walk_grow {bound : Nat} {l : Link} {j : Option Joint}
    (ended : generation es l.name bound = []) {n : Node} (hn : n ∈ (grow es bound l j).walk) :
    n.children.map Node.bare = (childrenOf es n.name).map leaf := by
  cases bound with
  | zero =>
    have here : n = .mk l j none [] := by simpa [grow, walk_eq, Node.children] using hn
    subst here
    have none_left : childrenOf es l.name = [] := ended
    simp [Node.children, Node.name, Node.link, none_left]
  | succ bound =>
    rw [walk_eq, List.mem_cons] at hn
    rcases hn with rfl | below
    · rw [children_grow_succ, bare_grown, Node.name, link_grow]
    · exact children_of_mem_forest_grown ended below

section Edges

variable {links : Roster Link} (keyed : ∀ e ∈ links.entries, e.2.name = e.1)

include keyed

theorem names_filter_edges (joints : Roster Joint) (p : Joint → Bool) :
    ((edges links joints).filter fun e => p e.2).map (fun e => e.1.name) =
      links.names.filter fun name => (joints.find? name).any p := by
  unfold edges Roster.names
  revert keyed
  induction links.entries with
  | nil => intro _; rfl
  | cons e es ih =>
    intro keyed
    have rest := ih fun e he => keyed e (List.mem_cons_of_mem _ he)
    have key := keyed e List.mem_cons_self
    cases h : joints.find? e.1 with
    | none => simp [h, ← rest]
    | some j => cases hp : p j <;> simp [h, hp, ← rest, key]

theorem names_edges (joints : Roster Joint) :
    (edges links joints).map (fun e => e.1.name) = links.names.filter joints.contains := by
  have all := names_filter_edges keyed joints fun _ => true
  rw [List.filter_true] at all
  rw [all]
  exact List.filter_congr fun name _ => by simp [Roster.contains]

end Edges

theorem mem_childrenOf {e : Link × Joint} {name : String} :
    e ∈ childrenOf es name ↔ e ∈ es ∧ e.2.parent = name := by
  simp [childrenOf]

theorem mem_offspring {e : Link × Joint} :
    e ∈ offspring es gs ↔ e ∈ es ∧ ∃ p ∈ gs, e.2.parent = p.1.name := by
  simp only [offspring, List.mem_flatMap, mem_childrenOf]
  constructor
  · rintro ⟨p, hp, he, parent⟩
    exact ⟨he, p, hp, parent⟩
  · rintro ⟨he, p, hp, parent⟩
    exact ⟨p, hp, he, parent⟩

theorem mem_generation_zero {e : Link × Joint} :
    e ∈ generation es root 0 ↔ e ∈ es ∧ e.2.parent = root := mem_childrenOf

theorem generation_succ (es : List (Link × Joint)) (root : String) (k : Nat) :
    generation es root (k + 1) = offspring es (generation es root k) :=
  Function.iterate_succ_apply' _ _ _

theorem mem_generation_succ {e : Link × Joint} {k : Nat} :
    e ∈ generation es root (k + 1) ↔
      e ∈ es ∧ ∃ p ∈ generation es root k, e.2.parent = p.1.name := by
  rw [generation_succ, mem_offspring]

theorem mem_of_mem_generation {e : Link × Joint} {k : Nat} (h : e ∈ generation es root k) :
    e ∈ es := by
  cases k with
  | zero => exact (mem_generation_zero.1 h).1
  | succ k => exact (mem_generation_succ.1 h).1

section Distinct

variable (names : (es.map fun e => e.1.name).Nodup) (unclaimed : root ∉ es.map fun e => e.1.name)

include names

theorem edge_ext {e e' : Link × Joint} (h : e ∈ es) (h' : e' ∈ es) (same : e.1.name = e'.1.name) :
    e = e' := List.inj_on_of_nodup_map names h h' same

include unclaimed

omit names in
theorem parent_ne_root {e p : Link × Joint} {k : Nat} (hp : p ∈ generation es root k)
    (parent : e.2.parent = p.1.name) : e.2.parent ≠ root := by
  intro h
  exact unclaimed (List.mem_map.2 ⟨p, mem_of_mem_generation hp, by rw [← parent, h]⟩)

theorem depth_unique {e : Link × Joint} {k m : Nat} (hk : e ∈ generation es root k)
    (hm : e ∈ generation es root m) : k = m := by
  -- both depths are climbed at once: an edge hangs on one edge only, and on none at depth 0
  induction k generalizing m e with
  | zero =>
    have parent := (mem_generation_zero.1 hk).2
    cases m with
    | zero => rfl
    | succ m =>
      obtain ⟨_, p, hp, above⟩ := mem_generation_succ.1 hm
      exact absurd parent (parent_ne_root unclaimed hp above)
  | succ k ih =>
    obtain ⟨_, p, hp, above⟩ := mem_generation_succ.1 hk
    cases m with
    | zero =>
      have parent := (mem_generation_zero.1 hm).2
      exact absurd parent (parent_ne_root unclaimed hp above)
    | succ m =>
      obtain ⟨_, q, hq, above'⟩ := mem_generation_succ.1 hm
      have same : p = q := edge_ext names (mem_of_mem_generation hp) (mem_of_mem_generation hq)
        (above.symm.trans above')
      subst same
      rw [ih hp hq]

omit unclaimed in
theorem generation_nodup (k : Nat) : (generation es root k).Nodup := by
  have distinct : es.Nodup := List.Nodup.of_map _ names
  induction k with
  | zero => exact distinct.filter _
  | succ k ih =>
    rw [generation_succ, offspring, List.nodup_flatMap]
    refine ⟨fun e _ => distinct.filter _, ih.imp_of_mem ?_⟩
    -- two edges with a child in common would have the same name
    intro p q hp hq ne e he he'
    have above := (mem_childrenOf.1 he).2.symm.trans (mem_childrenOf.1 he').2
    exact ne (edge_ext names (mem_of_mem_generation hp) (mem_of_mem_generation hq) above)

theorem generations_nodup (bound : Nat) :
    ((List.range bound).flatMap (generation es root)).Nodup := by
  rw [List.nodup_flatMap]
  refine ⟨fun k _ => generation_nodup names k, List.nodup_range.imp ?_⟩
  intro k m ne e hk hm
  exact ne (depth_unique names unclaimed hk hm)

omit unclaimed in
theorem names_grow_nodup {l : Link} (free : l.name ∉ es.map fun e => e.1.name) (bound : Nat)
    (robotName : String) : (Tree.mk robotName (grow es bound l none)).names.Nodup := by
  have listed {e : Link × Joint}
      (he : e ∈ (List.range bound).flatMap (generation es l.name)) : e ∈ es := by
    obtain ⟨k, -, he⟩ := List.mem_flatMap.1 he
    exact mem_of_mem_generation he
  rw [names_grow, List.nodup_cons]
  constructor
  · intro h
    obtain ⟨e, he, name⟩ := List.mem_map.1 h
    exact free (List.mem_map.2 ⟨e, listed he, name⟩)
  · refine List.Nodup.map_on ?_ (generations_nodup names free bound)
    exact fun e he e' he' same => edge_ext names (listed he) (listed he') same

omit names unclaimed in
theorem length_generations {k : Nat} (h : generation es root k ≠ []) :
    k < ((List.range (k + 1)).flatMap (generation es root)).length := by
  have grows : 0 < (generation es root k).length := List.length_pos_iff.2 h
  rw [List.range_succ, List.flatMap_append, List.length_append]
  simp only [List.flatMap_cons, List.flatMap_nil, List.append_nil]
  cases k with
  | zero => omega
  | succ k =>
    have above : generation es root k ≠ [] := by
      intro empty
      rw [generation_succ, empty] at h
      exact h rfl
    have ih := length_generations above
    omega

/-- There are no more generations than edges. -/
theorem generation_eq_nil {k : Nat} (h : es.length ≤ k) : generation es root k = [] := by
  by_contra alive
  -- then all generations above it have an edge as well, which makes more edges than there are
  have long := length_generations alive
  have within : ((List.range (k + 1)).flatMap (generation es root)).length ≤ es.length := by
    refine (generations_nodup names unclaimed _).length_le_of_subset ?_
    intro e he
    obtain ⟨m, _, he⟩ := List.mem_flatMap.1 he
    exact mem_of_mem_generation he
  omega

end Distinct

end Articulation
