import Articulation.Robot.Basic
/-!
From the final tree to the robot.
-/
set_option autoImplicit false

namespace Articulation

structure Emission where
  /-- Whether the root is named after the robot. -/
  renameRoot : Bool
  immovableRoot : Bool
  /-- Tells which visual meshes there are; without it all of them are. -/
  meshLookup : Option Lookup

namespace Emission

def rootLabel (e : Emission) (t : Tree) : String :=
  if e.renameRoot then t.robotName else t.root.name

def visual (e : Emission) (l : Link) : Traced DescriptionError (Option Visual) := do
  if !l.hasMesh then pure none
  else
    let asset ← match e.meshLookup with
      | none => pure l.asset
      | some find => do
        Traced.record [.meshQuery l.asset]
        match find l.asset with
        | some asset => pure asset
        | none => Traced.fail (.missingMesh l.asset l.name)
    pure (some ⟨asset, l.meshPose, l.materialName⟩)

def entry (e : Emission) (t : Tree) (n : Node) : Traced DescriptionError NodeEntry := do
  let label := e.rootLabel t
  let visual ← e.visual n.link
  pure {
    name := if n.isRoot then label else n.name
    link := n.name
    parent := n.parentName.map fun parent => if parent = t.root.name then label else parent
    pose := (n.joint.map (·.origin)).getD .identity
    mass := n.link.mass
    centreOfMass := n.link.inertialPose.position
    isImmovable := n.isRoot && e.immovableRoot
    isSensorOnly := n.link.isSensorOnly
    joint := n.joint
    visual := visual
    collider := n.collision.map fun g => ⟨g, n.link.meshPose⟩ }

def entries (e : Emission) (t : Tree) : List Node → Traced DescriptionError (List NodeEntry)
  | [] => pure []
  | n :: ns => do
    let first ← e.entry t n
    let others ← e.entries t ns
    pure (first :: others)

def usedMaterials (nodes : List NodeEntry) : List String :=
  nodes.filterMap fun n => n.visual.map (·.materialName)

/-- Only the materials that a mesh uses are emitted, in the order in which they were declared. -/
def robot (e : Emission) (t : Tree) (materials : Roster Material) :
    Traced DescriptionError Robot := do
  let nodes ← e.entries t t.walk
  Traced.note .info .compilation s!"Emitted {nodes.length} nodes for robot {t.robotName}"
  let used := usedMaterials nodes
  pure ⟨t.robotName, nodes, materials.filter used.contains⟩

end Emission

end Articulation
