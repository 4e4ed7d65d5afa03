import Articulation.Proofs.Stages
import Articulation.Robot.Emit
/-!
What is emitted of a tree. `entryOf` is the entry of a node as a function of the node, and
`result_entries` says that the entries of a walk are just these, unless a mesh is missing; then the
first node that lacks its mesh is to blame.
-/
set_option autoImplicit false

namespace Articulation

namespace Emission

variable (e : Emission) {t : Tree}

def shown? (l : Link) : Option String :=
  match e.meshLookup with
  | none => some l.asset
  | some find => find l.asset

def lacks (l : Link) : Bool := l.hasMesh && (e.shown? l).isNone

def visualOf (l : Link) : Option Visual :=
  if l.hasMesh then (e.shown? l).map fun asset => ⟨asset, l.meshPose, l.materialName⟩ else none

def entryOf (t : Tree) (n : Node) : NodeEntry where
  name := if n.isRoot then e.rootLabel t else n.name
  link := n.name
  parent := n.parentName.map fun parent => if parent = t.root.name then e.rootLabel t else parent
  pose := (n.joint.map (·.origin)).getD .identity
  mass := n.link.mass
  centreOfMass := n.link.inertialPose.position
  isImmovable := n.isRoot && e.immovableRoot
  isSensorOnly := n.link.isSensorOnly
  joint := n.joint
  visual := e.visualOf n.link
  collider := n.collision.map fun g => ⟨g, n.link.meshPose⟩

theorem result_visual (l : Link) :
    (e.visual l).result =
      if e.lacks l then .error (.missingMesh l.asset l.name) else .ok (e.visualOf l) := by
  unfold visual visualOf lacks shown?
  cases hasMesh : l.hasMesh with
  | false => rfl
  | true =>
    cases e.meshLookup with
    | none => rfl
    | some find => cases found : find l.asset <;> simp [found]

theorem result_entry (t : Tree) (n : Node) :
    (e.entry t n).result =
      if e.lacks n.link then .error (.missingMesh n.link.asset n.link.name)
      else .ok (e.entryOf t n) := by
  unfold entry
  rw [Traced.result_bind, result_visual]
  split
  · rfl
  · rfl

theorem result_entries (t : Tree) (ns : List Node) :
    (e.entries t ns).result = match (ns.map Node.link).find? e.lacks with
      | some l => .error (.missingMesh l.asset l.name)
      | none => .ok (ns.map (e.entryOf t)) := by
  induction ns with
  | nil => rfl
  | cons n ns ih =>
    rw [entries, Traced.result_bind, result_entry, List.map_cons, List.find?_cons]
    cases e.lacks n.link with
    | true => rfl
    | false =>
      simp only [Bool.false_eq_true, if_false, ok_bind, Traced.result_bind, ih]
      cases (ns.map Node.link).find? e.lacks <;> rfl

theorem result_robot (t : Tree) (materials : Roster Material) :
    (e.robot t materials).result = match (t.walk.map Node.link).find? e.lacks with
      | some l => .error (.missingMesh l.asset l.name)
      | none =>
        let nodes := t.walk.map (e.entryOf t)
        .ok ⟨t.robotName, nodes, materials.filter (usedMaterials nodes).contains⟩ := by
  rw [robot, Traced.result_bind, result_entries]
  cases (t.walk.map Node.link).find? e.lacks <;> rfl

end Emission

end Articulation
