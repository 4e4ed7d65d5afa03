import Articulation.Proofs.Names
/-!
The name of the root. A compiler may call the root after the robot, and then the nodes that hang on
the root name it so; nothing else depends on that choice, not even which texts are refused.
-/
set_option autoImplicit false

namespace Articulation

def Emission.namingRoot (e : Emission) (renameRoot : Bool) : Emission := { e with renameRoot }

/-- The entry of a node below the root once the root is called `label`. -/
def NodeEntry.hungOn (root label : String) (n : NodeEntry) : NodeEntry :=
  if n.joint.map (·.parent) = some root then { n with parent := some label } else n

namespace Emission

variable (e : Emission) {t : Tree} {n : Node} {j : Joint}

theorem entryOf_unrenamed (joint : n.joint = some j) :
    ((e.namingRoot false).entryOf t n).name = n.name ∧
      ((e.namingRoot false).entryOf t n).parent = some j.parent := by
  have label : (e.namingRoot false).rootLabel t = t.root.name := rfl
  simp only [entryOf, label, Node.isRoot, Node.parentName, joint]
  refine ⟨rfl, ?_⟩
  rw [Option.map_some, Option.map_some]
  split
  next same => rw [same]
  next => rfl

theorem entryOf_renamed (joint : n.joint = some j) :
    (e.namingRoot true).entryOf t n =
      ((e.namingRoot false).entryOf t n).hungOn t.root.name t.robotName := by
  have label : (e.namingRoot true).rootLabel t = t.robotName := rfl
  have parent := (e.entryOf_unrenamed (t := t) joint).2
  have same : ((e.namingRoot false).entryOf t n).joint = some j := joint
  simp only [NodeEntry.hungOn, same, Option.map_some, Option.some.injEq]
  split
  next top =>
    simp only [entryOf, label, Node.isRoot, Node.parentName, joint, Option.map_some, top, if_true]
    rfl
  next other =>
    simp only [entryOf, label, Node.isRoot, Node.parentName, joint, Option.map_some, if_neg other]
    rfl

theorem entryOf_root (free : t.root.joint = none) :
    (e.namingRoot true).entryOf t t.root =
      { (e.namingRoot false).entryOf t t.root with name := t.robotName } := by
  simp only [entryOf, Node.isRoot, Node.parentName, free]
  rfl

end Emission

/-- The two compilations differ in the name of the root alone. -/
structure Compilation.RootRenamed (plain named : Compilation) : Prop where
  tree : named.tree = plain.tree
  name : named.robot.name = plain.robot.name
  materials : named.robot.materials = plain.robot.materials
  nodes : ∃ first others, plain.robot.nodes = first :: others ∧
    first.joint = none ∧ first.parent = none ∧
    first.link = plain.tree.root.name ∧ first.name = first.link ∧
    (∀ n ∈ others, ∃ j, n.joint = some j ∧ n.name = n.link ∧ n.parent = some j.parent) ∧
    named.robot.nodes = { first with name := plain.robot.name } ::
      others.map (·.hungOn first.link plain.robot.name)

namespace Compiler

variable {c : Compiler} {t : Tree}

def namingRoot (c : Compiler) (renameRoot : Bool) : Compiler :=
  { c with config := { c.config with renameRoot } }

theorem rootRenamed_outcome (ht : t.WellFormed) (materials : Roster Material) :
    ((c.namingRoot false).outcome t materials).RootRenamed
      ((c.namingRoot true).outcome t materials) := by
  let final : Tree := (c.attachment t).apply t
  have hfinal : final.WellFormed := ht.attach _
  have entries (b : Bool) : ((c.namingRoot b).outcome t materials).robot.nodes =
      final.walk.map ((c.emission.namingRoot b).entryOf final) := rfl
  have hung : ∀ n ∈ final.below, ∃ j, n.joint = some j := by
    intro n hn
    have below := hfinal.not_isRoot hn
    rwa [Node.isRoot, Option.isNone_eq_false_iff, Option.isSome_iff_exists] at below
  have others : final.below.map ((c.emission.namingRoot true).entryOf final) =
      (final.below.map ((c.emission.namingRoot false).entryOf final)).map
        (·.hungOn final.root.name final.robotName) := by
    rw [List.map_map]
    refine List.map_congr_left fun n hn => ?_
    obtain ⟨j, joint⟩ := hung n hn
    exact c.emission.entryOf_renamed joint
  have nodes : ((c.namingRoot true).outcome t materials).robot.nodes =
      { (c.emission.namingRoot false).entryOf final final.root with name := final.robotName } ::
        (final.below.map ((c.emission.namingRoot false).entryOf final)).map
          (·.hungOn final.root.name final.robotName) := by
    rw [entries, Tree.walk_eq, List.map_cons, others, c.emission.entryOf_root hfinal.root_free]
  -- the meshes are the same, and they decide which materials are used
  have used : Emission.usedMaterials ((c.namingRoot true).outcome t materials).robot.nodes =
      Emission.usedMaterials ((c.namingRoot false).outcome t materials).robot.nodes := by
    unfold Emission.usedMaterials
    rw [entries, entries, List.filterMap_map, List.filterMap_map]
    rfl
  constructor
  · rfl
  · rfl
  · exact congrArg (fun used : List String => materials.filter used.contains) used
  · refine ⟨_, final.below.map ((c.emission.namingRoot false).entryOf final), ?_, ?_, ?_, rfl, ?_, ?_,
      nodes⟩
    · rw [entries, Tree.walk_eq, List.map_cons]
    · exact hfinal.root_free
    · simp only [Emission.entryOf, Node.parentName, hfinal.root_free]
      rfl
    · simp only [Emission.entryOf, Node.isRoot, hfinal.root_free]
      rfl
    · refine List.forall_mem_map.2 fun n hn => ?_
      obtain ⟨j, joint⟩ := hung n hn
      obtain ⟨name, parent⟩ := c.emission.entryOf_unrenamed (t := final) joint
      exact ⟨j, joint, name, parent⟩

/-- Whether the root is named after the robot or after its link, the same texts are refused for the
same reasons, and the robots are the same but for that name. -/
theorem compile_namingRoot (c : Compiler) (text : String) :
    (∃ f, ((c.namingRoot false).compile text).result = .error f ∧
      ((c.namingRoot true).compile text).result = .error f) ∨
    ∃ plain named, ((c.namingRoot false).compile text).result = .ok plain ∧
      ((c.namingRoot true).compile text).result = .ok named ∧ plain.RootRenamed named := by
  rw [result_compile, result_compile]
  have axis (b : Bool) : (c.namingRoot b).config.upAxis = c.config.upAxis := rfl
  rw [axis, axis]
  cases accepted : (Description.ofText c.config.upAxis text).result with
  | error e => exact .inl ⟨_, rfl, rfl⟩
  | ok d =>
    simp only [Except.mapError, ok_bind]
    cases built : (d.linkTree d.robotName).result with
    | error e => exact .inl ⟨_, rfl, rfl⟩
    | ok t =>
      have hd := Description.consistent_of_ofText accepted
      have trimmed : (c.trim t).WellFormed := wellFormed_trim (hd.wellFormed_linkTree built)
      have attachment (b : Bool) : (c.namingRoot b).attachment (c.trim t) = c.attachment (c.trim t) :=
        rfl
      have lacks (b : Bool) : (c.namingRoot b).emission.lacks = c.emission.lacks := rfl
      have trim (b : Bool) : (c.namingRoot b).trim t = c.trim t := rfl
      simp only [ok_bind, trim, finish_eq, attachment, lacks]
      cases (c.attachment (c.trim t)).failure with
      | some f => exact .inl ⟨f, rfl, rfl⟩
      | none =>
        cases ((c.trim t).walk.map Node.link).find? c.emission.lacks with
        | some l => exact .inl ⟨_, rfl, rfl⟩
        | none => exact .inr ⟨_, _, rfl, rfl, rootRenamed_outcome trimmed d.materials⟩

end Compiler

end Articulation
