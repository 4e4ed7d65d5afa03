import Articulation.AssetPath
import Articulation.Description.Basic
import Articulation.Joint.Classify
import Articulation.Vector
import Articulation.Xml.Document
/-!
From the elements of a document to the records of a robot description.
-/
set_option autoImplicit false

namespace Articulation

open Xml (Element)

namespace Description

def required (e : Element) (key : String) (subject : Option String) :
    Except DescriptionError String :=
  match e.get? key with
  | none => .error (.missingAttribute e.tag key subject)
  | some value =>
    if (Text.trim value.toList).isEmpty then .error (.missingAttribute e.tag key subject)
    else .ok value

def isShare (c : Float) : Bool := 0 ≤ c && c ≤ 1

def readColour (text subject : String) : Except DescriptionError Colour :=
  match h : readVector 4 (some text) subject with
  | .error e => .error e
  | .ok row =>
    if row.all isShare then .ok (.ofList row (length_of_readVector h))
    else .error (.colourOutOfRange text subject)

def colourOf (colour : Element) (subject : String) : Except DescriptionError Colour := do
  readColour (← required colour "rgba" subject) subject

def readPose (u : UpAxis) (subject : String) : Option Element → Except DescriptionError Pose
  | none => .ok .identity
  | some origin => do
    let xyz ← readVec3 ((origin.get? "xyz").getD "0 0 0") subject
    let rpy ← readVec3 ((origin.get? "rpy").getD "0 0 0") subject
    pure (u.pose xyz rpy)

def readMaterial (e : Element) : Traced DescriptionError Material := do
  let name ← required e "name" none
  match e.child? "color" with
  | none =>
    Traced.note .warning .description s!"Material {name} has no color, using the default color"
    pure ⟨name, defaultColour⟩
  | some colour => pure ⟨name, ← colourOf colour name⟩

def readMass (link : String) (inertial : Element) : Except DescriptionError Float := do
  match inertial.child? "mass" with
  | none => .error (.missingMass link)
  | some e =>
    let mass ← readNumber (← required e "value" link) link
    if mass < 0 then .error (.negativeMass link mass) else pure mass

/-- The name of the material of a visual, and the materials with its colour if its name is new. An
absent or empty name is that of the default material. -/
def readVisualMaterial (link : String) (materials : Roster Material) (e : Element) :
    Except DescriptionError (String × Roster Material) := do
  let name := match e.get? "name" with
    | none | some "" => defaultMaterialName
    | some name => name
  match e.child? "color" with
  | none => pure (name, materials)
  | some colour =>
    if materials.contains name then pure (name, materials)
    else pure (name, materials.insert name ⟨name, ← colourOf colour link⟩)

def readMesh (u : UpAxis) (visual : Element) (link : Link) : Except DescriptionError Link := do
  match visual.grandchild? "geometry" "mesh" with
  | none => pure link
  | some mesh =>
    let reference ← required mesh "filename" link.name
    if (AssetPath.ofString (stripScheme reference)).name?.isNone then
      .error (.namelessMesh reference link.name)
    else
      let pose ← readPose u link.name (visual.child? "origin")
      pure { link with
        hasMesh := true
        meshReference := reference
        meshPose := ⟨pose.position, u.visualRotation pose.rotation⟩ }

def readSurface (link : String) (materials : Roster Material) (visual : Element) :
    Except DescriptionError (String × Roster Material) :=
  match visual.child? "material" with
  | none => .ok (defaultMaterialName, materials)
  | some e => readVisualMaterial link materials e

def readVisual (u : UpAxis) (materials : Roster Material) (visual : Element) (link : Link) :
    Except DescriptionError (Link × Roster Material) := do
  let (material, materials) ← readSurface link.name materials visual
  let link ← readMesh u visual { link with materialName := material }
  pure (link, materials)

def readBody (u : UpAxis) (name : String) (inertial : Element) : Except DescriptionError Link := do
  let mass ← readMass name inertial
  let pose ← readPose u name (inertial.child? "origin")
  pure { Link.massive name mass with inertialPose := pose }

/-- A link, and the materials with the one that its visual may bring along. -/
def readLink (u : UpAxis) (materials : Roster Material) (e : Element) :
    Except DescriptionError (Link × Roster Material) := do
  let name ← required e "name" none
  match e.child? "inertial" with
  | none => pure (.sensor name, materials)
  | some inertial =>
    let link ← readBody u name inertial
    match e.child? "visual" with
    | none => pure (link, materials)
    | some visual => readVisual u materials visual link

def readReference (e : Element) (joint : String) (role : Role) :
    Except DescriptionError String :=
  match e.child? role.name with
  | none => .error (.missingReference role joint)
  | some r => required r "link" joint

def readLimit (joint : String) (e : Element) : Except DescriptionError LimitRecord := do
  let lower ← readNumber ((e.get? "lower").getD "0") joint
  let upper ← readNumber ((e.get? "upper").getD "0") joint
  let velocity ← (e.get? "velocity").mapM fun text => readNumber text joint
  pure ⟨lower, upper, velocity⟩

def readJointRecord (u : UpAxis) (e : Element) : Except DescriptionError JointRecord := do
  let name ← required e "name" none
  let parent ← readReference e name .parent
  let child ← readReference e name .child
  match e.child? "origin" with
  | none => .error (.missingOrigin name)
  | some origin =>
    let origin ← readPose u name (some origin)
    let axis ← (e.child? "axis").mapM fun axis => do
      pure (← readVec3 ((axis.get? "xyz").getD "1 0 0") name).toList
    let limit ← (e.child? "limit").mapM (readLimit name)
    pure ⟨name, e.get? "type", parent, child, origin, axis, limit⟩

def readMaterials (materials : Roster Material) :
    List Element → Traced DescriptionError (Roster Material)
  | [] => pure materials
  | e :: es => do
    let m ← readMaterial e
    readMaterials (materials.insert m.name m) es

def readLinks (u : UpAxis) (links : Roster Link) (materials : Roster Material) :
    List Element → Except DescriptionError (Roster Link × Roster Material)
  | [] => .ok (links, materials)
  | e :: es => do
    let (link, materials) ← readLink u materials e
    if links.contains link.name then .error (.duplicateLink link.name)
    else readLinks u (links.insert link.name link) materials es

/-- Both links of a joint must exist, and no other joint may claim its child. -/
def checkReferences (links : Roster Link) (joints : Roster Joint) (j : Joint) :
    Except DescriptionError Unit :=
  if !links.contains j.parent then .error (.unknownLink .parent j.parent j.name)
  else if !links.contains j.child then .error (.unknownLink .child j.child j.name)
  else match joints.find? j.child with
    | some other => .error (.claimedTwice j.child other.name j.name)
    | none => .ok ()

def readJoints (u : UpAxis) (links : Roster Link) (joints : Roster Joint) :
    List Element → Traced DescriptionError (Roster Joint)
  | [] => pure joints
  | e :: es => do
    let j ← classifyJoint (← readJointRecord u e)
    if joints.values.any (·.name == j.name) then Traced.fail (.duplicateJoint j.name)
    else
      checkReferences links joints j
      readJoints u links (joints.insert j.child j) es

def settleMaterial (materials : Roster Material) (l : Link) : Link :=
  if materials.contains l.materialName then l else { l with materialName := defaultMaterialName }

def undeclaredNote (l : Link) : Event :=
  .note .warning .description (s!"Link {l.name} references undeclared material " ++
    s!"'{l.materialName}', using '{defaultMaterialName}'")

def undeclaredNotes (materials : Roster Material) (links : Roster Link) : List Event :=
  (links.values.filter fun l => !materials.contains l.materialName).map undeclaredNote

def summary (d : Description) : String :=
  s!"Parsed robot {d.robotName}: {d.links.size} links, {d.joints.size} joints, " ++
    s!"{d.materials.size} materials"

/-- The materials are read first, then the links, then the joints, whatever their order in the
document. -/
def ofElement (u : UpAxis) (root : Element) : Traced DescriptionError Description := do
  if root.tag ≠ "robot" then Traced.fail (.notARobot root.tag)
  else
    let materials ← readMaterials (.ofList [(defaultMaterialName, defaultMaterial)])
      (root.childrenNamed "material")
    let (links, materials) ← readLinks u .empty materials (root.childrenNamed "link")
    let joints ← readJoints u links .empty (root.childrenNamed "joint")
    Traced.record (undeclaredNotes materials links)
    let d : Description := ⟨(root.get? "name").getD "robot", links.map (settleMaterial materials),
      joints, materials⟩
    Traced.note .info .description d.summary
    pure d

def ofText (u : UpAxis) (text : String) : Traced DescriptionError Description :=
  match Xml.read text with
  | .error e => .fail (.badDocument e)
  | .ok root => ofElement u root

end Description

end Articulation
