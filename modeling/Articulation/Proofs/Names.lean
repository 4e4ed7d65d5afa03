import Articulation.Proofs.Pipeline
/-!
Whether names tell the nodes of a robot apart. Link names do, but the root may be called after the
robot, and nothing keeps a robot from being called as one of its other links is. This is the only
way in which two nodes come to share a name.
-/
set_option autoImplicit false

namespace Articulation

/-- A node is found under its name, and so is the node that its joint hangs on. -/
structure Robot.NamesIdentify (r : Robot) : Prop where
  distinct : (r.nodes.map (·.name)).Nodup
  found : ∀ n ∈ r.nodes, r.find? n.name = some n
  parents : ∀ before n after, r.nodes = before ++ n :: after → before ≠ [] →
    ∃ p ∈ before, n.parent = some p.name ∧ r.nodes.filter (·.name == p.name) = [p] ∧
      n.joint.map (·.parent) = some p.link

theorem filter_name_eq {ns : List NodeEntry} (distinct : (ns.map (·.name)).Nodup) {p : NodeEntry}
    (hp : p ∈ ns) : ns.filter (·.name == p.name) = [p] := by
  obtain ⟨before, after, rfl⟩ := List.append_of_mem hp
  rw [List.map_append, List.map_cons, List.nodup_append, List.nodup_cons] at distinct
  obtain ⟨-, ⟨later, -⟩, earlier⟩ := distinct
  have none_before : before.filter (·.name == p.name) = [] := by
    refine List.filter_eq_nil_iff.2 fun n hn same => ?_
    exact earlier n.name (List.mem_map_of_mem hn) p.name List.mem_cons_self (eq_of_beq same)
  have none_after : after.filter (·.name == p.name) = [] := by
    refine List.filter_eq_nil_iff.2 fun n hn same => later ?_
    rw [← eq_of_beq same]
    exact List.mem_map_of_mem hn
  rw [List.filter_append, List.filter_cons_of_pos (by simp), none_before, none_after]
  rfl

theorem Robot.find?_name {r : Robot} (distinct : (r.nodes.map (·.name)).Nodup) {n : NodeEntry}
    (hn : n ∈ r.nodes) : r.find? n.name = some n := by
  rw [Robot.find?, ← List.head?_filter, filter_name_eq distinct hn]
  rfl

namespace Tree

variable {t : Tree}

/-- The nodes of the walk other than the root. -/
def below (t : Tree) : List Node := Node.forest t.root.children

theorem walk_eq (t : Tree) : t.walk = t.root :: t.below := Node.walk_eq t.root

theorem mem_walk_of_mem_below {n : Node} (hn : n ∈ t.below) : n ∈ t.walk := by
  rw [walk_eq]
  exact List.mem_cons_of_mem _ hn

theorem WellFormed.root_notMem (ht : t.WellFormed) : t.root.name ∉ t.below.map Node.name := by
  have distinct := ht.distinct
  rw [names, walk_eq, List.map_cons, List.nodup_cons] at distinct
  exact distinct.1

theorem WellFormed.not_isRoot (ht : t.WellFormed) {n : Node} (hn : n ∈ t.below) :
    n.isRoot = false := by
  rw [← Bool.not_eq_true, ht.isRoot_iff (mem_walk_of_mem_below hn)]
  rintro rfl
  exact ht.root_notMem (List.mem_map_of_mem hn)

end Tree

namespace Emission

variable (e : Emission) {t : Tree} (ht : t.WellFormed)

include ht

theorem map_name_entries :
    (t.walk.map (e.entryOf t)).map (·.name) = e.rootLabel t :: t.below.map Node.name := by
  have root : t.root.isRoot = true := (ht.isRoot_iff (Node.self_mem_walk t.root)).2 rfl
  rw [List.map_map, Tree.walk_eq, List.map_cons, List.cons.injEq]
  refine ⟨by simp [entryOf, root], List.map_congr_left fun n hn => ?_⟩
  simp [entryOf, ht.not_isRoot hn]

theorem parent_entryOf {p n : Node} (hp : p ∈ t.walk) (h : n.parentName = some p.name) :
    (e.entryOf t n).parent = some (e.entryOf t p).name := by
  have same : p.name = t.root.name ↔ p.isRoot = true := by
    rw [ht.isRoot_iff hp]
    exact ⟨ht.name_inj hp (Node.self_mem_walk t.root), fun h => by rw [h]⟩
  simp [entryOf, h, same]

/-- If the names are distinct at all, they lead to the right nodes. -/
theorem namesIdentify_of_distinct {r : Robot} (nodes : r.nodes = t.walk.map (e.entryOf t))
    (distinct : (r.nodes.map (·.name)).Nodup) : r.NamesIdentify := by
  refine ⟨distinct, fun n hn => Robot.find?_name distinct hn, ?_⟩
  intro before n after split later
  have mapped := nodes.symm.trans split
  obtain ⟨above, rest, walked, rfl, hrest⟩ := List.map_eq_append_iff.1 mapped
  obtain ⟨m, beneath, rfl, rfl, rfl⟩ := List.map_eq_cons_iff.1 hrest
  rcases ht.parent_before walked with ⟨rfl, -⟩ | ⟨p, hp, parent⟩
  · exact absurd rfl later
  · have listed : p ∈ t.walk := by simp [walked, hp]
    refine ⟨e.entryOf t p, List.mem_map_of_mem hp, e.parent_entryOf ht listed parent, ?_, parent⟩
    refine filter_name_eq distinct ?_
    rw [nodes]
    exact List.mem_map_of_mem listed

end Emission

namespace Compiler

variable {c : Compiler} {text : String} {made : Compilation}

theorem namesake_iff (ht : made.tree.WellFormed)
    (nodes : made.robot.nodes = made.tree.walk.map (c.emission.entryOf made.tree)) (name : String) :
    (∃ n ∈ made.robot.nodes, n.joint.isSome = true ∧ n.link = name) ↔
      name ∈ made.tree.below.map Node.name := by
  rw [nodes, List.mem_map]
  constructor
  · rintro ⟨_, hn, joint, rfl⟩
    obtain ⟨m, hm, rfl⟩ := List.mem_map.1 hn
    rw [Tree.walk_eq, List.mem_cons] at hm
    rcases hm with rfl | below
    · have free : (c.emission.entryOf made.tree made.tree.root).joint = none := ht.root_free
      rw [free] at joint
      contradiction
    · exact ⟨m, below, rfl⟩
  · rintro ⟨m, below, rfl⟩
    have free := ht.not_isRoot below
    refine ⟨_, List.mem_map_of_mem (Tree.mem_walk_of_mem_below below), ?_, rfl⟩
    rwa [Node.isRoot, Option.isNone_eq_false_iff] at free

/-- Names identify nodes unless the root takes a name that one of the other links has. -/
theorem namesIdentify_iff (h : (c.compile text).result = .ok made) :
    made.robot.NamesIdentify ↔
      ¬(c.config.renameRoot = true ∧
        ∃ n ∈ made.robot.nodes, n.joint.isSome = true ∧ n.link = made.robot.name) := by
  obtain ⟨ht, robotName, nodes⟩ := compile_nodes h
  rw [namesake_iff ht nodes, robotName]
  have names := c.emission.map_name_entries ht
  rw [← nodes] at names
  have below : (made.tree.below.map Node.name).Nodup := by
    have distinct := ht.distinct
    rw [Tree.names, Tree.walk_eq, List.map_cons, List.nodup_cons] at distinct
    exact distinct.2
  have label : c.emission.rootLabel made.tree =
      if c.config.renameRoot then made.tree.robotName else made.tree.root.name := rfl
  constructor
  · rintro identify ⟨rename, taken⟩
    -- the label of the root occurs once more among the names below it
    have distinct := identify.distinct
    rw [names, label, if_pos rename, List.nodup_cons] at distinct
    exact distinct.1 taken
  · intro free
    refine c.emission.namesIdentify_of_distinct ht nodes ?_
    rw [names, label, List.nodup_cons]
    refine ⟨?_, below⟩
    split
    next rename => exact fun taken => free ⟨rename, taken⟩
    next => exact ht.root_notMem

theorem namesIdentify_unrenamed : ∃ made,
    (compile ⟨{ Config.standard with renameRoot := false }, none, none⟩
      Description.namesakeText).result = .ok made ∧ made.robot.NamesIdentify := by
  have outcome : (compile ⟨{ Config.standard with renameRoot := false }, none, none⟩
      Description.namesakeText).result.toOption.map (fun made => made.robot.name) =
        some "arm" := by
    unfold compile
    rw [Description.ofText_namesakeText]
    decide +kernel
  obtain ⟨made, h, -⟩ := exists_ok_of_map outcome
  exact ⟨made, h, (namesIdentify_iff h).2 fun taken => absurd taken.1 (by decide)⟩

/-- The root takes the name of the link below it, and no name leads to that link any more. -/
theorem not_namesIdentify_renamed : ∃ made,
    (compile ⟨.standard, none, none⟩ Description.namesakeText).result = .ok made ∧
      made.robot.nodes.map (fun n => (n.name, n.link)) = [("arm", "base"), ("arm", "arm")] ∧
      (made.robot.find? "arm").map (·.link) = some "base" ∧ ¬made.robot.NamesIdentify := by
  have outcome : (compile ⟨.standard, none, none⟩ Description.namesakeText).result.toOption.map
      (fun made => (made.robot.nodes.map fun n => (n.name, n.link),
        (made.robot.find? "arm").map (·.link))) =
        some ([("arm", "base"), ("arm", "arm")], some "base") := by
    unfold compile
    rw [Description.ofText_namesakeText]
    decide +kernel
  obtain ⟨made, h, shape⟩ := exists_ok_of_map outcome
  obtain ⟨entries, first⟩ := Prod.mk.inj shape
  refine ⟨made, h, entries, first, fun identify => ?_⟩
  have distinct := identify.distinct
  have names := congrArg (List.map Prod.fst) entries
  rw [List.map_map] at names
  rw [show made.robot.nodes.map (·.name) = ["arm", "arm"] from names] at distinct
  simp at distinct

end Compiler

end Articulation
