import Articulation.Proofs.CreationOrder
import Articulation.Proofs.Histories
/-!
The registry of a tree, and the depth of its nodes. The depth is counted upwards, from name to name
in the registry, and the walk goes downwards from node to child; in a well-formed tree both agree,
whatever is pruned or attached.
-/
set_option autoImplicit false

namespace Articulation

namespace Node

theorem children_sublist_forest {n : Node} (ns : List Node) (h : n ∈ forest ns) :
    n.children.Sublist (forest ns) := by
  induction ns using forest_induction with
  | nil => simp at h
  | step ns ih =>
    rw [forest_eq] at h ⊢
    refine List.Sublist.trans ?_ (List.sublist_append_right _ _)
    rcases List.mem_append.1 h with top | below
    · rw [forest_eq]
      refine List.Sublist.trans ?_ (List.sublist_append_left _ _)
      exact List.sublist_flatten_of_mem (List.mem_map_of_mem top)
    · exact ih below

end Node

namespace Tree

variable {t : Tree} {p c n : Node}

/-- What passes from every node to its children holds of all nodes if it holds of the root. -/
theorem walk_induction {P : Node → Prop} (top : P t.root)
    (step : ∀ p ∈ t.walk, ∀ c ∈ p.children, P p → P c) : ∀ n ∈ t.walk, P n := by
  intro n hn
  have way := mem_walk_iff.1 hn
  clear hn
  induction way with
  | refl => exact top
  | tail above child ih => exact step _ (mem_walk_iff.2 above) _ child ih

theorem names_registry (distinct : t.names.Nodup) : t.registry.names = t.names := by
  rw [Roster.names, entries_registry distinct, List.map_map]
  rfl

theorem values_registry (distinct : t.names.Nodup) : t.registry.values = t.walk := by
  rw [Roster.values, entries_registry distinct, List.map_map]
  exact List.map_id _

theorem find?_registry (distinct : t.names.Nodup) {name : String} :
    t.registry.find? name = some n ↔ n ∈ t.walk ∧ n.name = name := by
  have keyed : ∀ e ∈ t.registry.entries, e.2.name = e.1 := by
    rw [entries_registry distinct]
    exact List.forall_mem_map.2 fun _ _ => rfl
  rw [Roster.find?_of_keyed keyed (by rwa [names_registry distinct]), values_registry distinct]

theorem find?_eq_registry (distinct : t.names.Nodup) (name : String) :
    t.find? name = t.registry.find? name := by
  rw [Roster.find?, entries_registry distinct, find?]
  generalize t.walk = ns
  induction ns with
  | nil => rfl
  | cons n ns ih =>
    rw [List.map_cons, List.find?_cons, List.lookup_cons, ih]
    by_cases here : n.name = name
    · simp [here]
    · rw [beq_eq_false_iff_ne.2 here, beq_eq_false_iff_ne.2 (Ne.symm here)]

theorem find?_name (distinct : t.names.Nodup) (hn : n ∈ t.walk) : t.find? n.name = some n := by
  rw [find?_eq_registry distinct]
  exact (find?_registry distinct).2 ⟨hn, rfl⟩

theorem depthWithin_of_parentName (distinct : t.names.Nodup) (hp : p ∈ t.walk)
    (parent : n.parentName = some p.name) (bound : Nat) :
    t.depthWithin (bound + 1) n = (t.depthWithin bound p).map (· + 1) := by
  rw [depthWithin, parent]
  simp only [find?_name distinct hp, Option.bind_some]

theorem WellFormed.depthWithin_root (ht : t.WellFormed) (bound : Nat) :
    t.depthWithin bound t.root = some 0 := by
  have free := ht.root_free
  cases bound with
  | zero => simp [depthWithin, Node.isRoot, free]
  | succ bound => simp [depthWithin, Node.parentName, free]

/-- The way up is no longer than the part of the walk that comes before the node. -/
theorem WellFormed.exists_depthWithin (ht : t.WellFormed) {before after : List Node}
    (split : t.walk = before ++ n :: after) :
    ∃ k, ∀ bound, before.length ≤ bound → t.depthWithin bound n = some k := by
  induction h : before.length using Nat.strong_induction_on generalizing n before after with
  | _ length ih =>
    rcases ht.parent_before split with ⟨-, rfl⟩ | ⟨p, hp, parent⟩
    · exact ⟨0, fun bound _ => ht.depthWithin_root bound⟩
    · obtain ⟨earlier, between, rfl⟩ := List.append_of_mem hp
      have shorter : earlier.length < length := by
        rw [← h, List.length_append, List.length_cons]
        omega
      obtain ⟨k, deep⟩ := ih earlier.length shorter (by rw [split, List.append_assoc]; rfl) rfl
      have listed : p ∈ t.walk := by simp [split]
      refine ⟨k + 1, fun bound enough => ?_⟩
      obtain ⟨bound, rfl⟩ : ∃ b, bound = b + 1 := Nat.exists_eq_succ_of_ne_zero (by omega)
      rw [depthWithin_of_parentName ht.distinct listed parent, deep bound (by omega)]
      rfl

theorem WellFormed.depthWithin_eq (ht : t.WellFormed) (hn : n ∈ t.walk) {bound : Nat}
    (enough : t.size ≤ bound + 1) :
    t.depthWithin bound n = t.depthOf? n.name ∧ (t.depthOf? n.name).isSome = true := by
  obtain ⟨before, after, split⟩ := List.append_of_mem hn
  obtain ⟨k, deep⟩ := ht.exists_depthWithin split
  have room : before.length < t.size := by
    rw [size, split, List.length_append, List.length_cons]
    omega
  have depth : t.depthOf? n.name = some k := by
    rw [depthOf?, find?_name ht.distinct hn]
    exact deep t.size (by omega)
  rw [depth]
  exact ⟨deep bound (by omega), rfl⟩

theorem WellFormed.depthOf?_root (ht : t.WellFormed) : t.depthOf? t.root.name = some 0 := by
  have enough : t.size ≤ t.size + 1 := Nat.le_succ _
  rw [← (ht.depthWithin_eq (Node.self_mem_walk t.root) enough).1]
  exact ht.depthWithin_root t.size

theorem WellFormed.depthOf?_child (ht : t.WellFormed) (hp : p ∈ t.walk) (hc : c ∈ p.children) :
    t.depthOf? c.name = (t.depthOf? p.name).map (· + 1) := by
  have hc' : c ∈ t.walk := Node.walk_closed hp hc
  rw [← (ht.depthWithin_eq hc' (Nat.le_succ_of_le (Nat.le_succ t.size))).1,
    depthWithin_of_parentName ht.distinct hp (ht.parents p hp c hc),
    (ht.depthWithin_eq hp (Nat.le_succ t.size)).1]

/-- The loop that goes from a node to the root, by the names of parents in the registry; it takes
that many rounds. -/
inductive Climbs (t : Tree) : Node → Nat → Prop where
  | top {n : Node} (free : n.joint = none) : Climbs t n 0
  | up {n p : Node} {j : Joint} {k : Nat} (joint : n.joint = some j)
      (found : t.registry.find? j.parent = some p) (above : Climbs t p k) : Climbs t n (k + 1)

theorem WellFormed.climbs (ht : t.WellFormed) :
    ∀ n ∈ t.walk, ∃ k, t.depthOf? n.name = some k ∧ t.Climbs n k := by
  refine walk_induction ⟨0, ht.depthOf?_root, .top ht.root_free⟩ ?_
  rintro p hp c hc ⟨k, depth, above⟩
  obtain ⟨j, joint, parent⟩ := ht.joint_child hp hc
  refine ⟨k + 1, ?_, .up joint ((find?_registry ht.distinct).2 ⟨hp, parent⟩) above⟩
  rw [ht.depthOf?_child hp hc, depth]
  rfl

theorem exists_parent (hn : n ∈ t.walk) (below : n ≠ t.root) :
    ∃ p ∈ t.walk, n ∈ p.children := by
  rcases (mem_walk_iff.1 hn).cases_tail with same | ⟨p, above, child⟩
  · exact absurd same below
  · exact ⟨p, mem_walk_iff.2 above, child⟩

theorem WellFormed.depthOf?_mono (ht : t.WellFormed) :
    t.walk.Pairwise fun m n => ∀ k l, t.depthOf? m.name = some k → t.depthOf? n.name = some l →
      k ≤ l := by
  have below : ∀ p ∈ t.walk, ∀ k, t.depthOf? p.name = some k →
      ∀ c ∈ p.children, t.depthOf? c.name = some (k + 1) := by
    intro p hp k depth c hc
    rw [ht.depthOf?_child hp hc, depth]
    rfl
  have ordered {m n : Node} {k l : Nat} (hm : t.depthOf? m.name = some k)
      (hn : t.depthOf? n.name = some l) (le : k ≤ l) :
      ∀ i j, t.depthOf? m.name = some i → t.depthOf? n.name = some j → i ≤ j := by
    intro i j hi hj
    rwa [← Option.some.inj (hm.symm.trans hi), ← Option.some.inj (hn.symm.trans hj)]
  have top : ∀ n ∈ [t.root], t.depthOf? n.name = some 0 :=
    List.forall_mem_singleton.2 ht.depthOf?_root
  have whole : (Node.forest [t.root]).Sublist t.walk := by rw [walk_eq_forest]
  rw [walk_eq_forest]
  refine Node.forest_pairwise below ?deeper ?cousins ?siblings [t.root] whole top
    (List.pairwise_singleton _ _)
  case deeper =>
    exact fun m n k l hm hn deeper => ordered hm hn (Nat.le_of_lt deeper)
  case cousins =>
    intro p q k pair hp hq m hm n hn
    exact ordered (below p (pair.subset (by simp)) k hp m hm)
      (below q (pair.subset (by simp)) k hq n hn) (Nat.le_refl _)
  case siblings =>
    intro p hp
    obtain ⟨k, depth, -⟩ := ht.climbs p hp
    exact List.pairwise_of_forall_mem_list fun m hm n hn =>
      ordered (below p hp k depth m hm) (below p hp k depth n hn) (Nat.le_refl _)

theorem WellFormed.depthOf?_thin (ht : t.WellFormed) {keep : Node → Bool} {f : Node → Node}
    (hf : Node.Thins keep f) {u : Tree} (hu : u = { t with root := f t.root }) :
    ∀ name ∈ u.names, u.depthOf? name = t.depthOf? name := by
  have wellFormed : u.WellFormed := hu ▸ ht.thin hf
  have same : ∀ n ∈ u.walk, ∃ m ∈ t.walk, n = f m ∧ u.depthOf? n.name = t.depthOf? m.name := by
    refine walk_induction ⟨t.root, Node.self_mem_walk _, by rw [hu], ?_⟩ ?_
    · rw [wellFormed.depthOf?_root, ht.depthOf?_root]
    · rintro _ hp c hc ⟨p, hp', rfl, depth⟩
      have child := hc
      rw [hf.children] at child
      obtain ⟨b, hb, rfl⟩ := List.mem_map.1 child
      have hb := List.mem_of_mem_filter hb
      refine ⟨b, Node.walk_closed hp' hb, rfl, ?_⟩
      rw [wellFormed.depthOf?_child hp hc, ht.depthOf?_child hp' hb, depth]
  intro name listed
  obtain ⟨n, hn, rfl⟩ := List.mem_map.1 listed
  obtain ⟨m, -, rfl, depth⟩ := same n hn
  rw [depth, hf.name]

/-- Every node but the root hangs once, and on one node only. -/
theorem WellFormed.hung (ht : t.WellFormed) (hn : n ∈ t.walk) (below : n ≠ t.root) :
    ∃ j p, n.joint = some j ∧ p ∈ t.walk ∧ p.name = j.parent ∧
      n ∈ p.children ∧ (p.children.map Node.name).count n.name = 1 ∧
      ∀ q ∈ t.walk, n.name ∈ q.children.map Node.name → q = p := by
  obtain ⟨p, hp, child⟩ := exists_parent hn below
  obtain ⟨j, joint, parent⟩ := ht.joint_child hp child
  have once : (p.children.map Node.name).Nodup := by
    have part := Node.children_sublist_forest [t.root] (by rwa [walk_eq_forest] at hp)
    rw [← walk_eq_forest] at part
    exact ht.distinct.sublist (part.map Node.name)
  refine ⟨j, p, joint, hp, parent, child, ?_, fun q hq listed => ?_⟩
  · exact List.count_eq_one_of_mem once (List.mem_map_of_mem child)
  · obtain ⟨m, hm, same⟩ := List.mem_map.1 listed
    rw [ht.name_inj (Node.walk_closed hq hm) hn same] at hm
    exact ht.parent_unique hq hp hm child

/-- The registry and the depths of a tree whose nodes are listed and hung up rightly. -/
structure Registered (t : Tree) : Prop where
  entries : t.registry.entries = t.walk.map fun n => (n.name, n)
  distinct : t.registry.names.Nodup
  reached : ∀ n, n ∈ t.registry.values ↔ t.root.Above n
  find : ∀ name n, t.registry.find? name = some n ↔ n ∈ t.walk ∧ n.name = name
  find_eq : ∀ name, t.find? name = t.registry.find? name
  size : t.registry.size = t.walk.length ∧ t.size = t.registry.size
  hung : ∀ n ∈ t.walk, n ≠ t.root → ∃ j p, n.joint = some j ∧ p ∈ t.walk ∧ p.name = j.parent ∧
    n ∈ p.children ∧ (p.children.map Node.name).count n.name = 1 ∧
    ∀ q ∈ t.walk, n.name ∈ q.children.map Node.name → q = p
  depth : ∀ n ∈ t.walk, ∃ k, t.depthOf? n.name = some k ∧ t.Climbs n k ∧ (k = 0 ↔ n = t.root)
  deeper : ∀ p ∈ t.walk, ∀ c ∈ p.children, t.depthOf? c.name = (t.depthOf? p.name).map (· + 1)
  unlisted : ∀ name ∉ t.names, t.depthOf? name = none
  order : t.walk.Pairwise fun m n => ∀ k l, t.depthOf? m.name = some k →
    t.depthOf? n.name = some l → k ≤ l

theorem WellFormed.registered (ht : t.WellFormed) : t.Registered := by
  have distinct := ht.distinct
  constructor
  · exact entries_registry distinct
  · rwa [names_registry distinct]
  · intro n
    rw [values_registry distinct, mem_walk_iff]
  · exact fun name n => find?_registry distinct
  · exact find?_eq_registry distinct
  · rw [Roster.size, entries_registry distinct, List.length_map]
    exact ⟨rfl, rfl⟩
  · exact fun n hn below => ht.hung hn below
  · intro n hn
    obtain ⟨k, depth, climbs⟩ := ht.climbs n hn
    refine ⟨k, depth, climbs, ?_⟩
    constructor
    · rintro rfl
      cases climbs with
      | top free => exact (ht.isRoot_iff hn).1 (by rw [Node.isRoot, free]; rfl)
    · rintro rfl
      exact Option.some.inj (depth.symm.trans ht.depthOf?_root)
  · exact fun p hp c hc => ht.depthOf?_child hp hc
  · intro name absent
    have unknown : t.find? name = none := by
      rw [find?, List.find?_eq_none]
      intro n hn same
      exact absent (List.mem_map.2 ⟨n, hn, eq_of_beq same⟩)
    rw [depthOf?, unknown]
    rfl
  · exact ht.depthOf?_mono

end Tree

namespace Description

variable {u : UpAxis} {text root robotName : String} {d : Description} {t : Tree}

/-- Whatever is done to a tree that was built for a description, its nodes are registered, and
those that stay are as deep as before. -/
theorem registered_after (accepted : (ofText u text).result = .ok d)
    (built : (buildTree d.links d.joints root robotName).result = .ok t) (stages : List Stage) :
    (t.after stages).Registered ∧
    ∀ stage : Stage, ∀ name ∈ (stage.leaves (t.after stages)).names,
      (stage.leaves (t.after stages)).depthOf? name = (t.after stages).depthOf? name := by
  have hd := consistent_of_ofText accepted
  have ht := hd.wellFormed_derived (hd.derives_after built stages)
  refine ⟨ht.registered, fun stage => ?_⟩
  obtain ⟨keep, f, hf, leaves⟩ := stage.exists_thins (t.after stages)
  exact ht.depthOf?_thin hf leaves

/-- The tag goes, and the arm is still one joint away from the base. -/
theorem registered_after_cell : ∃ d t, (ofText .y cellText).result = .ok d ∧
    (buildTree d.links d.joints "base" "cell").result = .ok t ∧
    t.names = ["base", "arm", "tag"] ∧
    (t.after [.associate .engineNative none true, .prune .standard]).names = ["base", "arm"] ∧
    (t.after [.associate .engineNative none true, .prune .standard]).depthOf? "arm" = some 1 ∧
    (t.after [.associate .engineNative none true, .prune .standard]).Registered := by
  obtain ⟨t, h, shape⟩ : ∃ t, ((ofText .y cellText).result >>= fun d =>
      (buildTree d.links d.joints "base" "cell").result) = .ok t ∧
      (t.names, (t.after [.associate .engineNative none true, .prune .standard]).names,
        (t.after [.associate .engineNative none true, .prune .standard]).depthOf? "arm") =
      (["base", "arm", "tag"], ["base", "arm"], some 1) := by
    rw [ofText_of_read read_cellText]
    exact exists_ok_of_map (by decide +kernel)
  obtain ⟨d, accepted, built⟩ := bind_eq_ok.1 h
  simp only [Prod.mk.injEq] at shape
  obtain ⟨before, after, depth⟩ := shape
  exact ⟨d, t, accepted, built, before, after, depth, (registered_after accepted built _).1⟩

end Description

end Articulation
