import Mathlib
/-!
The order of floating-point numbers. All of them but the value that is no number have a place in a
linear order, and `≤` and `<` compare places; nothing is above or below what is no number.
-/
set_option autoImplicit false

namespace Articulation.Number

open Float.Model (UnpackedFloat)

/-- A class from one infinity to the other, then the exponent and the digits as they count in the
class. -/
abbrev Place := Int ×ₗ Int ×ₗ Int

namespace Place

def of (kind exponent digits : Int) : Place := toLex (kind, toLex (exponent, digits))

theorem of_lt_of {k e m k' e' m' : Int} :
    of k e m < of k' e' m' ↔ k < k' ∨ k = k' ∧ (e < e' ∨ e = e' ∧ m < m') := by
  simp [of, Prod.Lex.toLex_lt_toLex]

theorem of_inj {k e m k' e' m' : Int} :
    of k e m = of k' e' m' ↔ k = k' ∧ e = e' ∧ m = m' := by
  simp [of]

def side (p q : Place) : Ordering := if p < q then .lt else if p = q then .eq else .gt

theorem side_isLE {p q : Place} : (side p q).isLE = true ↔ p ≤ q := by
  rcases lt_trichotomy p q with h | rfl | h
  · simp [side, h, h.le]
  · simp [side]
  · simp [side, h.not_gt, h.ne', h.not_ge]

theorem side_eq_lt {p q : Place} : side p q = .lt ↔ p < q := by
  unfold side
  split
  next h => simp [h]
  next h => split <;> simp [h]

theorem side_eq_eq {p q : Place} : side p q = .eq ↔ p = q := by
  unfold side
  split
  next h => simp [h.ne]
  next h => split <;> simp [*]

end Place

/-- Of two negative numbers the greater one is nearer to zero. -/
def placeOf? : UnpackedFloat → Option Place
  | .notANumber => none
  | .infinity .negative => some (.of (-2) 0 0)
  | .finite .negative m e _ => some (.of (-1) (-e) (-m))
  | .zero _ => some (.of 0 0 0)
  | .finite .positive m e _ => some (.of 1 e m)
  | .infinity .positive => some (.of 2 0 0)

theorem compare_then (e e' : Int) (m m' : Nat) :
    (compare e e').then (compare m m') =
      if e < e' ∨ e = e' ∧ m < m' then .lt else if e = e' ∧ m = m' then .eq else .gt := by
  rcases lt_trichotomy e e' with h | rfl | h
  · simp [compare_lt_iff_lt.2 h, h, Ordering.then]
  · rcases lt_trichotomy m m' with h | rfl | h
    · simp [compare_lt_iff_lt.2 h, h, Ordering.then]
    · simp [Ordering.then]
    · simp [compare_gt_iff_gt.2 h, h.not_gt, h.ne', Ordering.then]
  · simp [compare_gt_iff_gt.2 h, h.not_gt, h.ne', Ordering.then]

theorem compare_eq (a b : UnpackedFloat) :
    a.compare b = (placeOf? a).bind fun p => (placeOf? b).map p.side := by
  rcases a with ⟨_ | _⟩ | _ | _ | ⟨_ | _, m, e, _⟩ <;>
    rcases b with ⟨_ | _⟩ | _ | _ | ⟨_ | _, m', e', _⟩ <;>
    simp [UnpackedFloat.compare, placeOf?, Place.side, Place.of_lt_of, Place.of_inj, compare_then]
  case infinity.negative.infinity.negative => rfl
  case infinity.negative.infinity.positive => rfl
  case infinity.positive.infinity.negative => rfl
  case infinity.positive.infinity.positive => rfl
  case finite.negative.finite.negative => split <;> grind [Ordering.swap]

def place? (x : Float) : Option Place := placeOf? x.toModel.unpack

theorem isNaN_iff (x : Float) : x.isNaN = true ↔ place? x = none := by
  have told : x.isNaN = x.toModel.unpack.isNaN := rfl
  rw [told, place?]
  rcases x.toModel.unpack with ⟨_ | _⟩ | _ | _ | ⟨_ | _, m, e, _⟩ <;>
    simp [placeOf?, UnpackedFloat.isNaN]

theorem exists_place {x : Float} (h : x.isNaN = false) : ∃ p, place? x = some p := by
  rw [← Option.isSome_iff_exists, Option.isSome_iff_ne_none]
  intro lost
  rw [(isNaN_iff x).2 lost] at h
  contradiction

theorem le_iff {x y : Float} :
    x ≤ y ↔ ∃ p q, place? x = some p ∧ place? y = some q ∧ p ≤ q := by
  have told : x ≤ y ↔ (x.toModel.unpack.compare y.toModel.unpack).any (·.isLE) = true :=
    decide_eq_true_iff
  rw [told, compare_eq, ← place?, ← place?]
  cases place? x <;> cases place? y <;> simp [Place.side_isLE]

theorem lt_iff {x y : Float} :
    x < y ↔ ∃ p q, place? x = some p ∧ place? y = some q ∧ p < q := by
  have told : x < y ↔ x.toModel.unpack.compare y.toModel.unpack = some .lt :=
    decide_eq_true_iff.trans beq_iff_eq
  rw [told, compare_eq, ← place?, ← place?]
  cases place? x <;> cases place? y <;> simp [Place.side_eq_lt]

theorem beq_iff {x y : Float} :
    (x == y) = true ↔ ∃ p, place? x = some p ∧ place? y = some p := by
  have told : (x == y) = true ↔ x.toModel.unpack.compare y.toModel.unpack = some .eq :=
    beq_iff_eq (a := x.toModel.unpack.compare y.toModel.unpack)
  rw [told, compare_eq, ← place?, ← place?]
  cases place? x <;> cases place? y <;> simp [Place.side_eq_eq]
  case some.some => exact eq_comm

theorem le_trans {x y z : Float} (h : x ≤ y) (h' : y ≤ z) : x ≤ z := by
  obtain ⟨p, q, hp, hq, below⟩ := le_iff.1 h
  obtain ⟨q', r, hq', hr, above⟩ := le_iff.1 h'
  obtain rfl := Option.some.inj (hq.symm.trans hq')
  exact le_iff.2 ⟨p, r, hp, hr, below.trans above⟩

theorem isNaN_of_le {x y : Float} (h : x ≤ y) : x.isNaN = false ∧ y.isNaN = false := by
  obtain ⟨p, q, hp, hq, -⟩ := le_iff.1 h
  constructor
  · rw [← Bool.not_eq_true, isNaN_iff, hp]
    exact Option.some_ne_none p
  · rw [← Bool.not_eq_true, isNaN_iff, hq]
    exact Option.some_ne_none q

theorem le_of_not_lt {x y : Float} (hx : x.isNaN = false) (hy : y.isNaN = false)
    (h : ¬y < x) : x ≤ y := by
  obtain ⟨p, hp⟩ := exists_place hx
  obtain ⟨q, hq⟩ := exists_place hy
  exact le_iff.2 ⟨p, q, hp, hq, not_lt.1 fun below => h (lt_iff.2 ⟨q, p, hq, hp, below⟩)⟩

theorem lt_of_not_le {x y : Float} (hx : x.isNaN = false) (hy : y.isNaN = false)
    (h : ¬y ≤ x) : x < y := by
  obtain ⟨p, hp⟩ := exists_place hx
  obtain ⟨q, hq⟩ := exists_place hy
  exact lt_iff.2 ⟨p, q, hp, hq, not_le.1 fun below => h (le_iff.2 ⟨q, p, hq, hp, below⟩)⟩

end Articulation.Number
