import Articulation.Compile.Basic
/-!
The passage from the one frame of the engine to the other. A pose with y up is the pose with z up
with the axes shifted around; only the mesh of a link has a correction besides. Whatever is read of
an element is, with y up, what is read with z up, shifted.
-/
set_option autoImplicit false

namespace Articulation

open Xml (Element)

def Vec3.cycle {α : Type} (v : Vec3 α) : Vec3 α := ⟨v.y, v.z, v.x⟩

namespace Pose

/-- What a pose with z up is with y up. -/
def turned (p : Pose) : Pose := ⟨p.position.cycle, p.rotation.cycle⟩

/-- The same for the pose of a mesh, which has a correction with y up and none with z up. -/
def turnedMesh (p : Pose) : Pose :=
  ⟨p.position.cycle, ⟨-90 - p.rotation.y, 0 - p.rotation.z, 90 - p.rotation.x⟩⟩

end Pose

def Link.turned (l : Link) : Link :=
  { l with
    inertialPose := l.inertialPose.turned
    meshPose := if l.hasMesh then l.meshPose.turnedMesh else l.meshPose }

def JointRecord.turned (r : JointRecord) : JointRecord := { r with origin := r.origin.turned }

def Joint.turned (j : Joint) : Joint := { j with origin := j.origin.turned }

def Description.turned (d : Description) : Description :=
  { d with links := d.links.map Link.turned, joints := d.joints.map Joint.turned }

def Node.turned : Node → Node
  | mk l j c children => mk l.turned (j.map Joint.turned) c (turnedAll children)
where
  turnedAll : List Node → List Node
    | [] => []
    | n :: ns => n.turned :: turnedAll ns

def Tree.turned (t : Tree) : Tree := { t with root := t.root.turned }

def Visual.turned (v : Visual) : Visual := { v with pose := v.pose.turnedMesh }

def Collider.turned (c : Collider) : Collider := { c with pose := c.pose.turnedMesh }

def NodeEntry.turned (n : NodeEntry) : NodeEntry :=
  { n with
    pose := n.pose.turned
    centreOfMass := n.centreOfMass.cycle
    joint := n.joint.map Joint.turned
    visual := n.visual.map Visual.turned
    collider := n.collider.map Collider.turned }

def Robot.turned (r : Robot) : Robot := { r with nodes := r.nodes.map NodeEntry.turned }

def Compilation.turned (made : Compilation) : Compilation := ⟨made.tree.turned, made.robot.turned⟩

theorem UpAxis.pose_turned (xyz rpy : Vec3 Float) :
    UpAxis.y.pose xyz rpy = (UpAxis.z.pose xyz rpy).turned := rfl

theorem UpAxis.visualRotation_turned (p : Pose) :
    Pose.mk p.turned.position (UpAxis.y.visualRotation p.turned.rotation) =
      (Pose.mk p.position (UpAxis.z.visualRotation p.rotation)).turnedMesh := rfl

namespace Description

theorem readPose_turned (subject : String) (origin : Option Element) :
    readPose .y subject origin = Pose.turned <$> readPose .z subject origin := by
  cases origin with
  | none => rfl
  | some origin => simp only [readPose, map_bind, map_pure, UpAxis.pose_turned]

theorem readMesh_turned (visual : Element) (l : Link) :
    readMesh .y visual l.turned = Link.turned <$> readMesh .z visual l := by
  unfold readMesh
  cases visual.grandchild? "geometry" "mesh" with
  | none => rfl
  | some mesh =>
    simp only [map_bind]
    refine bind_congr fun reference => ?_
    split
    · rfl
    · rw [readPose_turned, bind_map_left, map_bind]
      refine bind_congr fun pose => ?_
      rw [UpAxis.visualRotation_turned]
      rfl

theorem readBody_turned (name : String) (inertial : Element) :
    readBody .y name inertial = Link.turned <$> readBody .z name inertial := by
  unfold readBody
  rw [map_bind]
  refine bind_congr fun mass => ?_
  rw [readPose_turned, bind_map_left, map_bind]
  rfl

theorem readVisual_turned (ms : Roster Material) (visual : Element) (l : Link) :
    readVisual .y ms visual l.turned = Prod.map Link.turned id <$> readVisual .z ms visual l := by
  unfold readVisual
  rw [map_bind]
  refine bind_congr fun surface => ?_
  have shown : ({ l.turned with materialName := surface.1 } : Link) =
      Link.turned { l with materialName := surface.1 } := rfl
  simp only [shown]
  rw [readMesh_turned, bind_map_left, map_bind]
  rfl

theorem readLink_turned (ms : Roster Material) (e : Element) :
    readLink .y ms e = Prod.map Link.turned id <$> readLink .z ms e := by
  unfold readLink
  rw [map_bind]
  refine bind_congr fun name => ?_
  cases e.child? "inertial" with
  | none => rfl
  | some inertial =>
    simp only [map_bind]
    rw [readBody_turned, bind_map_left]
    refine bind_congr fun l => ?_
    cases e.child? "visual" with
    | none => rfl
    | some visual => exact readVisual_turned ms visual l

theorem readLinks_turned (links : Roster Link) (ms : Roster Material) (es : List Element) :
    readLinks .y (links.map Link.turned) ms es =
      Prod.map (Roster.map Link.turned) id <$> readLinks .z links ms es := by
  induction es generalizing links ms with
  | nil => rfl
  | cons e es ih =>
    simp only [readLinks, map_bind]
    rw [readLink_turned, bind_map_left]
    refine bind_congr fun ⟨l, ms⟩ => ?_
    have name : l.turned.name = l.name := rfl
    simp only [Prod.map_apply, id, Roster.contains_map, name, Roster.insert_map, ih]
    split
    · rfl
    · rfl

theorem readJointRecord_turned (e : Element) :
    readJointRecord .y e = JointRecord.turned <$> readJointRecord .z e := by
  unfold readJointRecord
  simp only [map_bind]
  refine bind_congr fun name => bind_congr fun parent => bind_congr fun child => ?_
  cases e.child? "origin" with
  | none => rfl
  | some origin =>
    simp only [map_bind]
    rw [readPose_turned, bind_map_left]
    rfl

end Description

theorem JointRecord.joint_turned (r : JointRecord) :
    r.turned.joint = Joint.turned <$> r.joint := by
  have limited (type : JointType) (locks : Axis → Option LinearLocks) :
      r.turned.limitedJoint type locks = Joint.turned <$> r.limitedJoint type locks := by
    simp only [limitedJoint, map_bind]
    rfl
  unfold joint
  rw [map_bind]
  refine bind_congr fun type => ?_
  cases type with
  | fixed => rfl
  | continuous =>
    simp only [resolve, map_bind]
    rfl
  | revolute => exact limited .revolute fun _ => none
  | prismatic => exact limited .prismatic fun axis => some (.sliding axis)
  | floating => rfl

namespace Description

theorem checkReferences_turned (links : Roster Link) (joints : Roster Joint) (j : Joint) :
    checkReferences (links.map Link.turned) (joints.map Joint.turned) j.turned =
      checkReferences links joints j := by
  have parent : j.turned.parent = j.parent := rfl
  have child : j.turned.child = j.child := rfl
  have name : j.turned.name = j.name := rfl
  simp only [checkReferences, Roster.contains_map, Roster.find?_map, parent, child, name]
  cases joints.find? j.child <;> rfl

theorem readJoints_turned (links : Roster Link) (joints : Roster Joint) (es : List Element) :
    (readJoints .y (links.map Link.turned) (joints.map Joint.turned) es).result =
      Roster.map Joint.turned <$> (readJoints .z links joints es).result := by
  induction es generalizing joints with
  | nil => rfl
  | cons e es ih =>
    simp only [readJoints, Traced.result_bind, Traced.result_liftM, result_classifyJoint, map_bind]
    rw [readJointRecord_turned, bind_map_left]
    refine bind_congr fun r => ?_
    rw [JointRecord.joint_turned, bind_map_left]
    refine bind_congr fun j => ?_
    have name : j.turned.name = j.name := rfl
    have child : j.turned.child = j.child := rfl
    have taken : (joints.map Joint.turned).values.any (·.name == j.name) =
        joints.values.any (·.name == j.name) := by
      rw [Roster.values_map, List.any_map]
      rfl
    rw [name, child, taken, checkReferences_turned, Roster.insert_map]
    split
    · rfl
    · simp only [Traced.result_bind, Traced.result_liftM, map_bind, ih]

theorem settleMaterial_turned (ms : Roster Material) (l : Link) :
    settleMaterial ms l.turned = (settleMaterial ms l).turned := by
  have material : l.turned.materialName = l.materialName := rfl
  unfold settleMaterial
  rw [material]
  split
  · rfl
  · rfl

theorem ofElement_turned (root : Element) :
    (ofElement .y root).result = turned <$> (ofElement .z root).result := by
  unfold ofElement
  split
  · rfl
  · simp only [Traced.result_bind, Traced.result_liftM, map_bind]
    refine bind_congr fun ms => ?_
    have links := readLinks_turned .empty ms (root.childrenNamed "link")
    rw [Roster.map_empty] at links
    rw [links, bind_map_left]
    refine bind_congr fun ⟨ls, ms⟩ => ?_
    have joints := readJoints_turned ls .empty (root.childrenNamed "joint")
    rw [Roster.map_empty] at joints
    have settled : (ls.map Link.turned).map (settleMaterial ms) =
        (ls.map (settleMaterial ms)).map Link.turned := by
      simp only [Roster.map_map, settleMaterial_turned]
    simp only [Prod.map_apply, id, joints, bind_map_left, settled]
    rfl

end Description

end Articulation
