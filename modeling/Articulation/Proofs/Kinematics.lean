import Articulation.Frame
import Articulation.Joint.Basic
import Mathlib
/-!
Forward kinematics before and after the passage to the engine, over exact numbers. The basis of an
up axis carries a rotation about an axis to one about the image of that axis, by the angle that the
conversion gives there. So along a chain of joints the converted origins lead to the images of the
places to which the origins lead.
-/
set_option autoImplicit false

namespace Articulation

open Matrix

def Vec3.coordinates {α : Type} (v : Vec3 α) : Fin 3 → α := ![v.x, v.y, v.z]

def Vec3.along {α : Type} (v : Vec3 α) : Axis → α
  | .x => v.x
  | .y => v.y
  | .z => v.z

def Matrix3.toMatrix {α : Type} (m : Matrix3 α) : Matrix (Fin 3) (Fin 3) α :=
  !![m.row₁.x, m.row₁.y, m.row₁.z;
    m.row₂.x, m.row₂.y, m.row₂.z;
    m.row₃.x, m.row₃.y, m.row₃.z]

theorem Matrix3.coordinates_apply (m : Matrix3 ℝ) (v : Vec3 ℝ) :
    (m.apply v).coordinates = m.toMatrix *ᵥ v.coordinates := by
  ext i
  fin_cases i <;>
    simp [Vec3.coordinates, toMatrix, apply, Vec3.dot, Matrix.mulVec, dotProduct,
      Fin.sum_univ_three]

noncomputable section

namespace Kinematics

def about (a : Axis) (θ : ℝ) : Matrix (Fin 3) (Fin 3) ℝ :=
  match a with
  | .x => !![1, 0, 0; 0, Real.cos θ, -Real.sin θ; 0, Real.sin θ, Real.cos θ]
  | .y => !![Real.cos θ, 0, Real.sin θ; 0, 1, 0; -Real.sin θ, 0, Real.cos θ]
  | .z => !![Real.cos θ, -Real.sin θ, 0; Real.sin θ, Real.cos θ, 0; 0, 0, 1]

def degrees (θ : ℝ) : ℝ := θ * (180 / Real.pi)

def radians (d : ℝ) : ℝ := d * (Real.pi / 180)

def descriptionRotation (rpy : Vec3 ℝ) : Matrix (Fin 3) (Fin 3) ℝ :=
  about .z rpy.z * about .y rpy.y * about .x rpy.x

/-- An engine composes its Euler angles, in degrees, in an order that goes with its up axis. -/
def engineRotation (u : UpAxis) (angles : Vec3 ℝ) : Matrix (Fin 3) (Fin 3) ℝ :=
  let v := angles.map radians
  match u with
  | .y => about .y v.y * about .x v.x * about .z v.z
  | .z => about .z v.z * about .y v.y * about .x v.x

/-- The matrix of the conversion of positions. -/
abbrev basis (u : UpAxis) : Matrix (Fin 3) (Fin 3) ℝ := (u.basis : Matrix3 ℝ).toMatrix

/-- The axis of the engine on which an axis of the description comes to lie. -/
def image : UpAxis → Axis → Axis
  | .y, .x => .z
  | .y, .y => .x
  | .y, .z => .y
  | .z, a => a

variable (u : UpAxis)

theorem transpose_mul_basis : (basis u)ᵀ * basis u = 1 := by
  ext i j
  cases u <;> fin_cases i <;> fin_cases j <;>
    simp [basis, UpAxis.basis, Matrix3.toMatrix, Matrix.mul_apply, Fin.sum_univ_three]

theorem basis_mul_transpose : basis u * (basis u)ᵀ = 1 :=
  mul_eq_one_comm.1 (transpose_mul_basis u)

theorem radians_degrees (θ : ℝ) : radians (degrees θ) = θ := by
  unfold radians degrees
  field_simp

theorem radians_neg (d : ℝ) : radians (-d) = -radians d := neg_mul d _

theorem radians_rotation (v : Vec3 ℝ) : (u.rotation degrees v).map radians = u.rotation id v := by
  cases u <;>
    simp [UpAxis.rotation, UpAxis.handedness, UpAxis.basis, Vec3.map, Vec3.dot, Matrix3.apply,
      radians_neg, radians_degrees]

/-- The basis is a reflection, which reverses the sense of every turn. -/
theorem conj_about (a : Axis) (v : Vec3 ℝ) :
    basis u * about a (v.along a) * (basis u)ᵀ =
      about (image u a) ((u.rotation id v).along (image u a)) := by
  -- entry by entry: cosines stay what they are, and sines take the sign of the angle
  ext i j
  cases u <;> cases a <;> fin_cases i <;> fin_cases j <;>
    simp [basis, UpAxis.basis, UpAxis.rotation, UpAxis.handedness, image, about, Vec3.along,
      Vec3.map, Vec3.dot, Matrix3.apply, Matrix3.toMatrix, Matrix.mul_apply, Fin.sum_univ_three]

theorem conj_mul (r s : Matrix (Fin 3) (Fin 3) ℝ) :
    basis u * (r * s) * (basis u)ᵀ =
      (basis u * r * (basis u)ᵀ) * (basis u * s * (basis u)ᵀ) := by
  calc basis u * (r * s) * (basis u)ᵀ
      = basis u * r * 1 * s * (basis u)ᵀ := by simp only [Matrix.mul_one, Matrix.mul_assoc]
    _ = basis u * r * ((basis u)ᵀ * basis u) * s * (basis u)ᵀ := by rw [transpose_mul_basis]
    _ = (basis u * r * (basis u)ᵀ) * (basis u * s * (basis u)ᵀ) := by
      simp only [Matrix.mul_assoc]

theorem conj_descriptionRotation (rpy : Vec3 ℝ) :
    basis u * descriptionRotation rpy * (basis u)ᵀ =
      engineRotation u (u.rotation degrees rpy) := by
  have x := conj_about u .x rpy
  have y := conj_about u .y rpy
  have z := conj_about u .z rpy
  simp only [Vec3.along] at x y z
  unfold descriptionRotation engineRotation
  rw [conj_mul, conj_mul, x, y, z, radians_rotation]
  cases u <;> rfl

structure Origin where
  xyz : Vec3 ℝ
  angles : Vec3 ℝ

def Origin.converted (o : Origin) : Origin := ⟨u.position o.xyz, u.rotation degrees o.angles⟩

/-- Where a link stands, seen from the root. -/
structure Place where
  position : Fin 3 → ℝ
  orientation : Matrix (Fin 3) (Fin 3) ℝ

namespace Place

def root : Place := ⟨0, 1⟩

def converted (p : Place) : Place :=
  ⟨basis u *ᵥ p.position, basis u * p.orientation * (basis u)ᵀ⟩

section Rotation

variable (rotation : Vec3 ℝ → Matrix (Fin 3) (Fin 3) ℝ)

def child (p : Place) (o : Origin) : Place :=
  ⟨p.position + p.orientation *ᵥ o.xyz.coordinates, p.orientation * rotation o.angles⟩

def along : Place → List Origin → List Place
  | p, [] => [p]
  | p, o :: os => p :: along (p.child rotation o) os

end Rotation

theorem converted_root : root.converted u = root := by
  unfold converted root
  rw [Matrix.mulVec_zero, Matrix.mul_one, basis_mul_transpose]

theorem converted_child (p : Place) (o : Origin) :
    (p.child descriptionRotation o).converted u =
      (p.converted u).child (engineRotation u) (o.converted u) := by
  have position : basis u *ᵥ (p.position + p.orientation *ᵥ o.xyz.coordinates) =
      basis u *ᵥ p.position +
        (basis u * p.orientation * (basis u)ᵀ) *ᵥ (u.position o.xyz).coordinates := by
    have forth : (u.position o.xyz).coordinates = basis u *ᵥ o.xyz.coordinates :=
      Matrix3.coordinates_apply _ o.xyz
    rw [forth, Matrix.mulVec_add, Matrix.mulVec_mulVec, Matrix.mulVec_mulVec, Matrix.mul_assoc,
      transpose_mul_basis, Matrix.mul_one]
  have orientation := conj_mul u p.orientation (descriptionRotation o.angles)
  rw [conj_descriptionRotation] at orientation
  simp only [child, converted, Origin.converted, position, orientation]

theorem along_converted (p : Place) (chain : List Origin) :
    along (engineRotation u) (p.converted u) (chain.map (Origin.converted u)) =
      (along descriptionRotation p chain).map (converted u) := by
  induction chain generalizing p with
  | nil => rfl
  | cons o os ih => rw [List.map_cons, along, ← converted_child, ih, along, List.map_cons]

end Place

/-- Every link of a chain stands, in the engine, at the image of where it stands in the
description. -/
theorem engine_places (chain : List Origin) :
    Place.along (engineRotation u) .root (chain.map (Origin.converted u)) =
      (Place.along descriptionRotation .root chain).map (Place.converted u) := by
  have places := Place.along_converted u .root chain
  rwa [Place.converted_root] at places

end Kinematics

end

end Articulation
