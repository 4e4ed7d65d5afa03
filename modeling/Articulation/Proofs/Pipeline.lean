import Articulation.Compile.Basic
import Articulation.Proofs.Association
import Articulation.Proofs.Emission
/-!
The outcome of a whole compilation. Its stages are a reading, the growth of a tree and `finish`,
with `trim` in between; whatever the text and the lookups are, a compilation that fails has an error
of the description to report.
-/
set_option autoImplicit false

namespace Articulation.Compiler

open Xml (Element)

variable (c : Compiler)

def trim (t : Tree) : Tree := if c.config.prune then t.prune c.config.pruneRule else t

def attachment (t : Tree) : Association :=
  associate c.config.collisionSource c.collisionLookup c.config.requireCollision t

/-- What is left to do with a tree once it has been pruned. -/
def finish (t : Tree) (materials : Roster Material) : Except Failure Compilation :=
  match (c.attachment t).failure with
  | some f => .error f
  | none => do
    let tree := (c.attachment t).apply t
    let robot ← (c.robot tree materials).result
    pure ⟨tree, robot⟩

/-- The outcome if nothing is missing. -/
def outcome (t : Tree) (materials : Roster Material) : Compilation :=
  let tree := (c.attachment t).apply t
  let nodes := tree.walk.map (c.emission.entryOf tree)
  ⟨tree, tree.robotName, nodes, materials.filter (Emission.usedMaterials nodes).contains⟩

theorem finish_eq (t : Tree) (materials : Roster Material) :
    c.finish t materials =
      match (c.attachment t).failure, (t.walk.map Node.link).find? c.emission.lacks with
      | some f, _ => .error f
      | none, some l => .error (.description (.missingMesh l.asset l.name))
      | none, none => .ok (c.outcome t materials) := by
  unfold finish
  cases (c.attachment t).failure with
  | some f => rfl
  | none =>
    have links := t.links_attach (c.attachment t).attached
    simp only [robot, Traced.result_mapError, Emission.result_robot, Association.apply, links]
    cases (t.walk.map Node.link).find? c.emission.lacks <;> rfl

theorem result_plainTree (d : Description) :
    (c.plainTree d).result = (d.linkTree d.robotName).result.map c.trim := by
  unfold plainTree Description.linkTree trim
  simp only [Traced.result_bind, Traced.result_liftM, Traced.result_note, ok_bind]
  cases findRoot d.links d.joints with
  | error e => rfl
  | ok root =>
    simp only [ok_bind]
    cases (buildTree d.links d.joints root d.robotName).result with
    | error e => rfl
    | ok t => cases c.config.prune <;> rfl

theorem result_tree (d : Description) (materials : Roster Material) :
    (do
      let tree ← (c.tree d).result
      let robot ← (c.robot tree materials).result
      pure (Compilation.mk tree robot)) =
    (do
      let t ← (d.linkTree d.robotName).result.mapError .description
      c.finish (c.trim t) materials) := by
  unfold tree
  rw [Traced.result_bind, Traced.result_mapError, result_plainTree]
  cases (d.linkTree d.robotName).result with
  | error e => rfl
  | ok t =>
    unfold finish attachment
    simp only [Except.map, Except.mapError, ok_bind, associateCollisions]
    cases (associate _ _ _ _).failure <;> rfl

theorem result_compile (text : String) :
    (c.compile text).result = (do
      let d ← (Description.ofText c.config.upAxis text).result.mapError .description
      let t ← (d.linkTree d.robotName).result.mapError .description
      c.finish (c.trim t) d.materials) := by
  unfold compile
  simp only [Traced.result_bind, Traced.result_mapError, Traced.result_pure]
  refine bind_congr fun d => ?_
  exact c.result_tree d d.materials

/-- The compilation of a document that has been read. -/
def compileElement (root : Element) : Traced Failure Compilation := do
  let d ← (Description.ofElement c.config.upAxis root).mapError .description
  let tree ← c.tree d
  let robot ← c.robot tree d.materials
  pure ⟨tree, robot⟩

theorem compile_eq_compileElement (text : String) :
    c.compile text = match Xml.read text with
      | .error e => .fail (.description (.badDocument e))
      | .ok root => c.compileElement root := by
  unfold compile Description.ofText
  cases Xml.read text <;> rfl

variable {c} in
theorem compile_of_read {text : String} {root : Element} (h : Xml.read text = .ok root) :
    c.compile text = c.compileElement root := by
  rw [compile_eq_compileElement, h]

theorem result_compileElement (root : Element) :
    (c.compileElement root).result = (do
      let d ← (Description.ofElement c.config.upAxis root).result.mapError .description
      let t ← (d.linkTree d.robotName).result.mapError .description
      c.finish (c.trim t) d.materials) := by
  unfold compileElement
  simp only [Traced.result_bind, Traced.result_mapError, Traced.result_pure]
  exact bind_congr fun d => c.result_tree d d.materials

variable {c} {text : String} {t : Tree} {materials : Roster Material} {made : Compilation}

theorem wellFormed_trim (ht : t.WellFormed) : (c.trim t).WellFormed := by
  unfold trim
  split
  · exact ht.prune c.config.pruneRule
  · exact ht

theorem drawnFrom_trim {d : Description} (ht : t.DrawnFrom d) : (c.trim t).DrawnFrom d := by
  unfold trim
  split
  · exact ht.thin (Node.thins_prune c.config.pruneRule)
  · exact ht

theorem compile_ok (h : (c.compile text).result = .ok made) :
    ∃ d t, (Description.ofText c.config.upAxis text).result = .ok d ∧
      (d.linkTree d.robotName).result = .ok t ∧ c.finish (c.trim t) d.materials = .ok made := by
  rw [result_compile] at h
  obtain ⟨d, accepted, h⟩ := bind_eq_ok.1 h
  obtain ⟨t, built, finished⟩ := bind_eq_ok.1 h
  exact ⟨d, t, mapError_eq_ok.1 accepted, mapError_eq_ok.1 built, finished⟩

theorem finish_ok (h : c.finish t materials = .ok made) : made = c.outcome t materials := by
  rw [finish_eq] at h
  split at h
  · contradiction
  · contradiction
  · exact (Except.ok.inj h).symm

theorem wellFormed_outcome (ht : t.WellFormed) (materials : Roster Material) :
    (c.outcome t materials).tree.WellFormed := ht.attach _

theorem compile_nodes (h : (c.compile text).result = .ok made) :
    made.tree.WellFormed ∧ made.robot.name = made.tree.robotName ∧
      made.robot.nodes = made.tree.walk.map (c.emission.entryOf made.tree) := by
  obtain ⟨d, t, accepted, built, finished⟩ := compile_ok h
  have hd := Description.consistent_of_ofText accepted
  rw [finish_ok finished]
  exact ⟨wellFormed_outcome (wellFormed_trim (hd.wellFormed_linkTree built)) d.materials, rfl, rfl⟩

/-- The final tree still consists of the records that were read, and so do the materials. -/
theorem compile_described (h : (c.compile text).result = .ok made) :
    ∃ root d, Xml.read text = .ok root ∧
      (Description.ofElement c.config.upAxis root).result = .ok d ∧ made.tree.DrawnFrom d ∧
      made.robot.materials =
        d.materials.filter (Emission.usedMaterials made.robot.nodes).contains := by
  obtain ⟨d, t, accepted, built, finished⟩ := compile_ok h
  obtain ⟨root, read, described⟩ := Description.ofText_ok accepted
  have grown := (Description.consistent_of_ofElement described).drawnFrom_linkTree built
  have drawn := (drawnFrom_trim (c := c) grown).thin
    (Node.thins_attach (c.attachment (c.trim t)).attached)
  rw [finish_ok finished]
  exact ⟨root, d, read, described, drawn, rfl⟩

theorem finish_error (ht : t.WellFormed) {f : Failure} (h : c.finish t materials = .error f) :
    ∃ e, f = .description e ∧ ∃ n ∈ t.walk, e.subject = some n.name := by
  rw [finish_eq] at h
  cases failed : (c.attachment t).failure with
  | some g =>
    rw [failed] at h
    cases h
    obtain ⟨n, hn, identifier, rfl⟩ := failure_of_associateNodes ht.mesh_named failed
    exact ⟨_, rfl, n, hn, rfl⟩
  | none =>
    rw [failed] at h
    split at h
    · contradiction
    next l lost =>
      cases h
      obtain ⟨n, hn, rfl⟩ := List.mem_map.1 (List.mem_of_find?_eq_some lost)
      exact ⟨_, rfl, n, hn, rfl⟩
    · contradiction

theorem compile_error {f : Failure} (h : (c.compile text).result = .error f) :
    ∃ e, f = .description e := by
  rw [result_compile] at h
  rcases bind_eq_error.1 h with h | ⟨d, accepted, h⟩
  · obtain ⟨e, _, rfl⟩ := mapError_eq_error.1 h
    exact ⟨e, rfl⟩
  · rcases bind_eq_error.1 h with h | ⟨t, built, h⟩
    · obtain ⟨e, _, rfl⟩ := mapError_eq_error.1 h
      exact ⟨e, rfl⟩
    · have hd := Description.consistent_of_ofText (mapError_eq_ok.1 accepted)
      obtain ⟨e, rfl, -⟩ :=
        finish_error (wellFormed_trim (hd.wellFormed_linkTree (mapError_eq_ok.1 built))) h
      exact ⟨e, rfl⟩

theorem result_reporting {α : Type} (t : Traced Failure α) :
    (reporting t).result = match t.result with
      | .ok a => .ok (.ok a)
      | .error (.description e) => .ok (.error e)
      | .error f => .error f := by
  unfold reporting
  split <;> simp_all

/-- Whatever text is compiled, the outcome is a robot or an error of the description, and a safe
compilation reports the same robot, with the tree it was made from, or the same error. -/
theorem compile_total (c : Compiler) (text : String) :
    (∃ made, (c.compile text).result = .ok made ∧
      (c.compileSafely text).result = .ok (.ok made) ∧
      made.tree.walk.map (·.link.name) = made.robot.nodes.map (·.link)) ∨
    ∃ e, (c.compile text).result = .error (.description e) ∧
      (c.compileSafely text).result = .ok (.error e) := by
  have safely : (c.compileSafely text).result = (reporting (c.compile text)).result := rfl
  rw [safely, result_reporting]
  cases h : (c.compile text).result with
  | ok made =>
    obtain ⟨d, t, _, _, finished⟩ := compile_ok h
    refine .inl ⟨made, rfl, rfl, ?_⟩
    rw [finish_ok finished, outcome, List.map_map]
    rfl
  | error f =>
    obtain ⟨e, rfl⟩ := compile_error h
    exact .inr ⟨e, rfl, rfl⟩

end Articulation.Compiler
