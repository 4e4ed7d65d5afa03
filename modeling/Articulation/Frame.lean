import Articulation.Vec3
/-!
The two frames of the target engine, and the passage to them from the frame of a robot
description. The description is right-handed with z up and x forward, and measures angles in
radians; the engine is left-handed with y or z up, and measures angles in degrees.
-/
set_option autoImplicit false

namespace Articulation

inductive UpAxis where
  | y | z
  deriving DecidableEq, Repr

namespace UpAxis

def name : UpAxis → String
  | .y => "y"
  | .z => "z"

def all : List UpAxis := [.y, .z]

def ofName? (s : String) : Option UpAxis := all.find? (·.name == s)

@[simp] theorem ofName?_name (u : UpAxis) : ofName? u.name = some u := by cases u <;> decide

variable {α : Type}

section Basis

variable [OfNat α 0] [OfNat α 1] [Neg α]

/-- With y up a position (x, y, z) becomes (-y, z, x), with z up it becomes (x, -y, z). -/
def basis : UpAxis → Matrix3 α
  | .y => ⟨⟨0, -1, 0⟩, ⟨0, 0, 1⟩, ⟨1, 0, 0⟩⟩
  | .z => ⟨⟨1, 0, 0⟩, ⟨0, -1, 0⟩, ⟨0, 0, 1⟩⟩

variable [Add α] [Mul α]

def position (u : UpAxis) (v : Vec3 α) : Vec3 α := u.basis.apply v

def handedness : α := -1

/-- Angles transform as a pseudo-vector: they take the sign of the determinant. -/
def rotation (u : UpAxis) (degrees : α → α) (v : Vec3 α) : Vec3 α :=
  (u.basis.apply (v.map degrees)).map (handedness * ·)

end Basis

theorem det_basis (u : UpAxis) : (u.basis : Matrix3 Int).det = handedness := by
  cases u <;> decide

end UpAxis

/-- A quotient of 180 by π that is rounded once. -/
def degreesPerRadian : Float := 57.29577951308232

def degrees (x : Float) : Float := x * degreesPerRadian

structure Pose where
  position : Vec3 Float
  rotation : Vec3 Float
  deriving Repr, BEq

namespace Pose

def origin : Vec3 Float := ⟨0, 0, 0⟩

def identity : Pose := ⟨origin, origin⟩

end Pose

namespace UpAxis

def pose (u : UpAxis) (xyz rpy : Vec3 Float) : Pose := ⟨u.position xyz, u.rotation degrees rpy⟩

def visualOffset : UpAxis → Option (Vec3 Float)
  | .y => some ⟨-90, 0, 90⟩
  | .z => none

def visualRotation (u : UpAxis) (v : Vec3 Float) : Vec3 Float :=
  match u.visualOffset with
  | some offset => offset.sub v
  | none => v

/-- The rotation of a mesh for components that need not be three: where there is no offset they
stay as they are, and against an offset a single one stands for all three. -/
def visualComponents (u : UpAxis) (cs : List Float) : Option (List Float) :=
  match u.visualOffset, cs with
  | none, cs => some cs
  | some offset, [c] => some (offset.sub ⟨c, c, c⟩).toList
  | some offset, cs => (Vec3.ofList? cs).map fun v => (offset.sub v).toList

theorem visualComponents_toList (u : UpAxis) (v : Vec3 Float) :
    u.visualComponents v.toList = some (u.visualRotation v).toList := by cases u <;> rfl

end UpAxis

end Articulation
