import Articulation.Proofs.Kinematics
import Articulation.Proofs.NumberArithmetic
/-!
The passage from the frame of a description to a frame of the engine, component by component. It is
a product with a matrix, and in a product with a zero what is infinite does not vanish: only of
finite numbers does the matrix make no more than another order and other signs.
-/
set_option autoImplicit false

namespace Articulation

open Kinematics (image)
open Number

namespace Vec3

variable {α : Type}

theorem along_map {β : Type} (f : α → β) (v : Vec3 α) (a : Axis) :
    (v.map f).along a = f (v.along a) := by
  cases a <;> rfl

theorem beq_iff {v w : Vec3 Float} : (v == w) = true ↔ ∀ a, (v.along a == w.along a) = true := by
  have told : (v == w) = (v.x == w.x && (v.y == w.y && v.z == w.z)) := rfl
  rw [told, Bool.and_eq_true, Bool.and_eq_true]
  constructor
  · rintro ⟨x, y, z⟩ a
    cases a with
    | x => exact x
    | y => exact y
    | z => exact z
  · exact fun same => ⟨same .x, same .y, same .z⟩

variable {r v : Vec3 Float} {a : Axis}

theorem dot_eq (r v : Vec3 Float) : r.dot v =
    0 + r.along .x * v.along .x + r.along .y * v.along .y + r.along .z * v.along .z := rfl

theorem place?_dot_of_none (lost : place? (r.along a * v.along a) = none) :
    place? (r.dot v) = none := by
  rw [dot_eq]
  cases a with
  | x => exact place?_add_of_none (place?_add_of_none (place?_add_of_none' lost))
  | y => exact place?_add_of_none (place?_add_of_none' lost)
  | z => exact place?_add_of_none' lost

/-- Where all but one of the products vanish, the sum is the one that is left. -/
theorem place?_dot (vanish : ∀ b ≠ a, place? (r.along b * v.along b) = some (.of 0 0 0)) :
    place? (r.dot v) = place? (r.along a * v.along a) := by
  have start (x : Float) : place? (0 + x) = place? x := place?_zero_add place?_zero
  rw [dot_eq]
  cases a with
  | x =>
    rw [place?_add_zero (vanish .z (by decide)), place?_add_zero (vanish .y (by decide)), start]
  | y =>
    have before := (start _).trans (vanish .x (by decide))
    rw [place?_add_zero (vanish .z (by decide)), place?_zero_add before]
  | z =>
    have first := (start _).trans (vanish .x (by decide))
    have before := (place?_add_zero (vanish .y (by decide))).trans first
    rw [place?_zero_add before]

end Vec3

def Matrix3.row {α : Type} (m : Matrix3 α) : Axis → Vec3 α
  | .x => m.row₁
  | .y => m.row₂
  | .z => m.row₃

namespace UpAxis

def permuted : UpAxis → Vec3 Float → Vec3 Float
  | .y, v => ⟨-v.y, v.z, v.x⟩
  | .z, v => ⟨v.x, -v.y, v.z⟩

def permutedAngles : UpAxis → Vec3 Float → Vec3 Float
  | .y, v => ⟨v.y, -v.z, -v.x⟩
  | .z, v => ⟨-v.x, v.y, -v.z⟩

/-- Both conversions give every component another place and another sign, and nothing else. -/
structure Permutes (u : UpAxis) (v : Vec3 Float) : Prop where
  position : (u.position v == u.permuted v) = true
  rotation : (u.rotation degrees v == u.permutedAngles (v.map degrees)) = true

variable {u : UpAxis} {v : Vec3 Float} {a b : Axis}

theorem along_position (u : UpAxis) (v : Vec3 Float) (a : Axis) :
    (u.position v).along a = (u.basis.row a).dot v := by
  cases a <;> rfl

theorem basis_eq_zero (other : image u b ≠ a) : (u.basis.row a).along b = (0 : Float) := by
  cases u <;> cases a <;> cases b <;> first | rfl | exact absurd rfl other

theorem along_permuted (u : UpAxis) (v : Vec3 Float) (b : Axis) :
    (u.permuted v).along (image u b) = (u.basis.row (image u b)).along b * v.along b := by
  have told (x : Float) : -1 * x = -x := by rw [neg_mul, one_mul]
  cases u <;> cases b <;> first | exact (one_mul _).symm | exact (told _).symm

theorem image_injective (u : UpAxis) : Function.Injective (image u) := by
  intro a b same
  cases u <;> cases a <;> cases b <;> first | rfl | contradiction

theorem image_surjective (u : UpAxis) : Function.Surjective (image u)
  | .x => by cases u <;> [exact ⟨.y, rfl⟩; exact ⟨.x, rfl⟩]
  | .y => by cases u <;> [exact ⟨.z, rfl⟩; exact ⟨.y, rfl⟩]
  | .z => by cases u <;> [exact ⟨.x, rfl⟩; exact ⟨.z, rfl⟩]

theorem place?_position (finite : ∀ c ≠ b, (v.along c).isFinite = true) :
    place? ((u.position v).along (image u b)) = place? ((u.permuted v).along (image u b)) := by
  rw [along_position, along_permuted]
  refine Vec3.place?_dot fun c other => ?_
  rw [place?_zero_mul, if_pos (finite c other)]
  rw [basis_eq_zero fun same => other (image_injective u same), place?_zero]

theorem place?_position_of_infinite (other : image u b ≠ a)
    (infinite : (v.along b).isFinite = false) : place? ((u.position v).along a) = none := by
  rw [along_position]
  refine Vec3.place?_dot_of_none (a := b) ?_
  rw [place?_zero_mul, infinite]
  · rfl
  · rw [basis_eq_zero other, place?_zero]

theorem isFinite_permuted (u : UpAxis) (v : Vec3 Float) (b : Axis) :
    ((u.permuted v).along (image u b)).isFinite = (v.along b).isFinite := by
  cases u <;> cases b <;> first | rfl | exact isFinite_neg _

/-- A position arrives as it should just if all of it is finite. -/
theorem position_iff (u : UpAxis) (v : Vec3 Float) :
    (u.position v == u.permuted v) = true ↔ ∀ b, (v.along b).isFinite = true := by
  rw [Vec3.beq_iff]
  constructor
  · intro same b
    by_contra infinite
    have several : Nontrivial Axis := ⟨.x, .y, by decide⟩
    obtain ⟨a, other⟩ := exists_ne (image u b)
    obtain ⟨p, here, -⟩ := Number.beq_iff.1 (same a)
    rw [place?_position_of_infinite other.symm (Bool.eq_false_iff.2 infinite)] at here
    contradiction
  · intro finite a
    obtain ⟨b, rfl⟩ := image_surjective u a
    have number : ((u.permuted v).along (image u b)).isNaN = false :=
      isNaN_of_isFinite ((isFinite_permuted u v b).trans (finite b))
    obtain ⟨p, here⟩ := exists_place number
    exact Number.beq_iff.2 ⟨p, (place?_position fun c _ => finite c).trans here, here⟩

theorem along_rotation (u : UpAxis) (v : Vec3 Float) (a : Axis) :
    (u.rotation degrees v).along a = -(u.position (v.map degrees)).along a := by
  have told (x : Float) : handedness * x = -x := by rw [handedness, neg_mul, one_mul]
  exact (Vec3.along_map _ _ a).trans (told _)

theorem along_permutedAngles (u : UpAxis) (v : Vec3 Float) (a : Axis) :
    (u.permutedAngles v).along a = -(u.permuted v).along a := by
  cases u <;> cases a <;> first | rfl | exact (neg_neg _).symm

theorem rotation_iff (u : UpAxis) (v : Vec3 Float) :
    (u.rotation degrees v == u.permutedAngles (v.map degrees)) = true ↔
      ∀ b, (degrees (v.along b)).isFinite = true := by
  have unsigned : (u.rotation degrees v == u.permutedAngles (v.map degrees)) = true ↔
      (u.position (v.map degrees) == u.permuted (v.map degrees)) = true := by
    rw [Vec3.beq_iff, Vec3.beq_iff]
    refine forall_congr' fun a => ?_
    rw [along_rotation, along_permutedAngles, neg_beq_neg]
  rw [unsigned, position_iff]
  refine forall_congr' fun b => ?_
  rw [Vec3.along_map]

theorem isNaN_of_infinite (other : image u b ≠ a) (infinite : (v.along b).isFinite = false) :
    ((u.position v).along a).isNaN = true ∧ ((u.rotation degrees v).along a).isNaN = true := by
  have lost : ((v.map degrees).along b).isFinite = false := by
    rw [Vec3.along_map, ← Bool.not_eq_true]
    intro finite
    rw [isFinite_of_mul finite] at infinite
    contradiction
  rw [along_rotation, isNaN_iff, isNaN_iff, place?_neg, place?_position_of_infinite other infinite,
    place?_position_of_infinite other lost]
  exact ⟨rfl, rfl⟩

/-- Infinite angles in degrees include those of finite ones that are far too large. -/
theorem permutes_iff (u : UpAxis) (v : Vec3 Float) :
    (u.Permutes v ↔ ∀ b, (degrees (v.along b)).isFinite = true) ∧
    ((u.position v == u.permuted v) = true ↔ ∀ b, (v.along b).isFinite = true) ∧
    ∀ a b, image u b ≠ a → (v.along b).isFinite = false →
      ((u.position v).along a).isNaN = true ∧ ((u.rotation degrees v).along a).isNaN = true := by
  refine ⟨⟨fun h => (rotation_iff u v).1 h.rotation, fun finite => ?_⟩, position_iff u v,
    fun a b => isNaN_of_infinite⟩
  exact ⟨(position_iff u v).2 fun b => isFinite_of_mul (finite b), (rotation_iff u v).2 finite⟩

/-- Far away straight ahead: what is beside that is lost. -/
def horizon : Vec3 Float := ⟨1.0 / 0.0, 1, 2⟩

/-- An angle that is finite until it is one in degrees. -/
def unwound : Vec3 Float := ⟨1e308, 0, 0⟩

theorem not_permutes_horizon :
    (∀ b, (horizon.along b).isNaN = false) ∧
    (y.position horizon).map (·.isNaN) = ⟨true, true, false⟩ ∧ ¬y.Permutes horizon ∧
    (∀ b, (unwound.along b).isFinite = true) ∧ ¬y.Permutes unwound := by
  refine ⟨?_, by decide +kernel, fun permutes => ?_, ?_, fun permutes => ?_⟩
  · intro b
    cases b <;> decide +kernel
  · have finite := (position_iff y horizon).1 permutes.position .x
    revert finite
    decide +kernel
  · intro b
    cases b <;> decide +kernel
  · have finite := (rotation_iff y unwound).1 permutes.rotation .x
    revert finite
    decide +kernel

end UpAxis

end Articulation
