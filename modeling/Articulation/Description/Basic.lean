import Articulation.Joint.Basic
import Articulation.Roster
/-!
The records of a robot description: links, joints and materials.
-/
set_option autoImplicit false

namespace Articulation

structure Colour where
  red : Float
  green : Float
  blue : Float
  alpha : Float
  deriving Repr, BEq

def Colour.toList (c : Colour) : List Float := [c.red, c.green, c.blue, c.alpha]

def Colour.ofList (row : List Float) (h : row.length = 4) : Colour :=
  ⟨row[0], row[1], row[2], row[3]⟩

@[simp] theorem Colour.toList_ofList (row : List Float) (h : row.length = 4) :
    (ofList row h).toList = row := by
  match row, h with
  | [_, _, _, _], _ => rfl

structure Material where
  name : String
  colour : Colour
  deriving Repr, BEq

def Material.metallic (_ : Material) : Float := 0.75

def Material.glossiness (_ : Material) : Float := 0.75

def defaultMaterialName : String := "default"

def defaultColour : Colour := ⟨0.33, 0.33, 0.33, 0⟩

def defaultMaterial : Material := ⟨defaultMaterialName, defaultColour⟩

structure Link where
  name : String
  mass : Float
  hasMesh : Bool
  /-- The reference to the mesh as it is written; empty without a mesh. -/
  meshReference : String
  meshPose : Pose
  inertialPose : Pose
  materialName : String
  /-- A link without inertial data: a camera or another marker. -/
  isSensorOnly : Bool
  deriving Repr, BEq

def packageScheme : List Char := "package://".toList

def stripScheme (reference : String) : String :=
  if packageScheme.isPrefixOf reference.toList then
    String.ofList (reference.toList.drop packageScheme.length)
  else reference

namespace Link

def massive (name : String) (mass : Float) : Link :=
  ⟨name, mass, false, "", .identity, .identity, defaultMaterialName, false⟩

def sensor (name : String) : Link := { massive name 0 with isSensorOnly := true }

def asset (l : Link) : String := stripScheme l.meshReference

end Link

/-- Links are listed under their names and joints under the names of their children. -/
structure Description where
  robotName : String
  links : Roster Link
  joints : Roster Joint
  materials : Roster Material
  deriving Repr

end Articulation
