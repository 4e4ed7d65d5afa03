import Articulation.Proofs.NumberOrder
import Articulation.Proofs.Nearest
/-!
Sums and products of floating-point numbers that are not rounded, as one operand is a zero or a
one, and the signs of products.
-/
set_option autoImplicit false

namespace Articulation.Number

open Float.Model (UnpackedFloat Format totalExponent)
open Float.Model.UnpackedFloat
open Decimal (word exists_word unpack_word pack_word neg_unpack_word)

/-- What 64 bits keep of a result. -/
def settle (u : UnpackedFloat) : UnpackedFloat := unpack .binary64 (pack .binary64 u)

def signOf? : UnpackedFloat → Option Sign
  | .notANumber => none
  | .infinity s | .zero s | .finite s _ _ _ => some s

theorem exists_fields {u : UnpackedFloat} {s : Sign} (h : signOf? u = some s) :
    ∃ e m, (e = -1#11 → m = 0#52) ∧ pack .binary64 u = (word s e m).toBitVec ∧
      pack .binary64 u.neg = (word (-s) e m).toBitVec := by
  cases u with
  | notANumber => contradiction
  | infinity s =>
    cases h
    exact ⟨-1#11, 0#52, fun _ => rfl, rfl, rfl⟩
  | zero s =>
    cases h
    exact ⟨0#11, 0#52, fun _ => rfl, rfl, rfl⟩
  | finite s m e pos =>
    cases h
    simp only [pack, UnpackedFloat.neg]
    split
    · exact ⟨-1#11, 0#52, fun _ => rfl, rfl, rfl⟩
    · split
      next small normal =>
        refine ⟨_, _, fun top => absurd (congrArg BitVec.toNat top) ?_, rfl, rfl⟩
        have bound : 2 ^ Format.binary64.exponentBits = 2048 := rfl
        have last : (-1#11).toNat = 2047 := rfl
        rw [bound] at small
        rw [BitVec.toNat_ofNat, bound, last, Nat.mod_eq_of_lt (by omega)]
        omega
      next => exact ⟨0#11, _, fun top => absurd top (by decide), rfl, rfl⟩

theorem signOf?_unpack_word {s : Sign} {e : BitVec 11} {m : BitVec 52}
    (number : e = -1#11 → m = 0#52) :
    signOf? (unpack .binary64 (word s e m).toBitVec) = some s := by
  rw [unpack_word]
  split
  next top =>
    rw [if_pos (number top)]
    rfl
  next => split <;> [split; skip] <;> rfl

theorem eq_of_signOf? {u : UnpackedFloat} (h : signOf? u = none) : u = .notANumber := by
  cases u <;> first | rfl | contradiction

theorem signOf?_settle (u : UnpackedFloat) : signOf? (settle u) = signOf? u := by
  cases h : signOf? u with
  | none =>
    rw [eq_of_signOf? h]
    rfl
  | some s =>
    obtain ⟨e, m, number, fields, -⟩ := exists_fields h
    rw [settle, fields, signOf?_unpack_word number]

theorem settle_neg (u : UnpackedFloat) : settle u.neg = (settle u).neg := by
  cases h : signOf? u with
  | none =>
    rw [eq_of_signOf? h]
    rfl
  | some s =>
    obtain ⟨e, m, -, fields, flipped⟩ := exists_fields h
    rw [settle, settle, fields, flipped, neg_unpack_word]

theorem pack_unpack {x : Float} (number : x.isNaN = false) :
    pack .binary64 x.toModel.unpack = x.toBits.toBitVec := by
  obtain ⟨s, e, m, h⟩ := exists_word x.toBits
  have told : x.toModel.unpack = unpack .binary64 x.toBits.toBitVec := rfl
  rw [told, h, pack_word (Decimal.number_of_isNaN h number)]

theorem settle_unpack (x : Float) : settle x.toModel.unpack = x.toModel.unpack := by
  cases number : x.isNaN with
  | true =>
    rw [Decimal.eq_notANumber number]
    rfl
  | false =>
    rw [settle, pack_unpack number]
    rfl

theorem eq_of_unpack {x y : Float} (h : x.toModel.unpack = y.toModel.unpack) : x = y := by
  cases number : x.isNaN with
  | true =>
    have number' : y.isNaN = true := (congrArg UnpackedFloat.isNaN h).symm.trans number
    rw [Decimal.eq_notANumber number, Decimal.eq_notANumber number']
  | false =>
    have number' : y.isNaN = false := (congrArg UnpackedFloat.isNaN h).symm.trans number
    refine Decimal.eq_of_toBits (UInt64.eq_of_toBitVec_eq ?_)
    rw [← pack_unpack number, ← pack_unpack number', h]

variable {x y z : Float} {p : Place}

theorem unpack_neg (x : Float) : (-x).toModel.unpack = x.toModel.unpack.neg := by
  have told : (-x).toModel.unpack = settle x.toModel.unpack.neg := rfl
  rw [told, settle_neg, settle_unpack]

theorem neg_neg (x : Float) : - -x = x := by
  refine eq_of_unpack ?_
  rw [unpack_neg, unpack_neg]
  cases x.toModel.unpack with
  | notANumber => rfl
  | infinity s => cases s <;> rfl
  | zero s => cases s <;> rfl
  | finite s => cases s <;> rfl

def Place.opposite (p : Place) : Place :=
  .of (-(ofLex p).1) (-(ofLex (ofLex p).2).1) (-(ofLex (ofLex p).2).2)

theorem place?_neg (x : Float) : place? (-x) = (place? x).map Place.opposite := by
  rw [place?, place?, unpack_neg]
  rcases x.toModel.unpack with ⟨_ | _⟩ | _ | _ | ⟨_ | _, m, e, _⟩ <;>
    simp [UnpackedFloat.neg, placeOf?, Place.opposite, Place.of]

theorem isFinite_eq (x : Float) : x.isFinite = x.toModel.unpack.isFinite := rfl

theorem isFinite_neg (x : Float) : (-x).isFinite = x.isFinite := by
  rw [isFinite_eq, isFinite_eq, unpack_neg]
  cases x.toModel.unpack <;> rfl

theorem isNaN_of_isFinite (finite : x.isFinite = true) : x.isNaN = false := by
  have told : x.isNaN = x.toModel.unpack.isNaN := rfl
  rw [isFinite_eq] at finite
  rw [told]
  revert finite
  cases x.toModel.unpack <;> simp [UnpackedFloat.isFinite, UnpackedFloat.isNaN]

theorem neg_beq_neg (x y : Float) : (-x == -y) = (x == y) := by
  have same {x y : Float} (h : (x == y) = true) : (-x == -y) = true := by
    obtain ⟨p, hx, hy⟩ := beq_iff.1 h
    exact beq_iff.2 ⟨p.opposite, by rw [place?_neg, hx]; rfl, by rw [place?_neg, hy]; rfl⟩
  refine Bool.eq_iff_iff.2 ⟨fun h => ?_, same⟩
  have back := same h
  rwa [neg_neg, neg_neg] at back

theorem place?_zero : place? 0 = some (.of 0 0 0) := rfl

theorem place?_eq_zero_iff : place? x = some (.of 0 0 0) ↔ ∃ s, x.toModel.unpack = .zero s := by
  rw [place?]
  rcases x.toModel.unpack with ⟨_ | _⟩ | _ | _ | ⟨_ | _, m, e, _⟩ <;>
    simp [placeOf?, Place.of_inj]

theorem unpack_add (x y : Float) :
    (x + y).toModel.unpack = settle (add .binary64 x.toModel.unpack y.toModel.unpack) := rfl

theorem add_comm (x y : Float) : x + y = y + x := by
  refine eq_of_unpack ?_
  rw [unpack_add, unpack_add]
  congr 1
  rcases x.toModel.unpack with ⟨_ | _⟩ | _ | ⟨_ | _⟩ | ⟨s, m, e, _⟩ <;>
    rcases y.toModel.unpack with ⟨_ | _⟩ | _ | ⟨_ | _⟩ | ⟨s', m', e', _⟩ <;> try rfl
  simp only [add, min_comm, Int.add_comm]

theorem add_zero_cases (u : UnpackedFloat) (s : Sign) : add .binary64 u (.zero s) = u ∨
    ∃ s₁ s₂, u = .zero s₁ ∧ add .binary64 u (.zero s) = .zero s₂ := by
  cases u with
  | notANumber => exact .inl rfl
  | infinity => exact .inl rfl
  | finite => exact .inl rfl
  | zero s₁ =>
    cases s <;> cases s₁ <;> exact .inr ⟨_, _, rfl, rfl⟩

theorem place?_add_zero (h : place? z = some (.of 0 0 0)) : place? (x + z) = place? x := by
  obtain ⟨s, zero⟩ := place?_eq_zero_iff.1 h
  rw [place?, place?, unpack_add, zero]
  rcases add_zero_cases x.toModel.unpack s with same | ⟨s₁, s₂, here, sum⟩
  · rw [same, settle_unpack]
  · rw [sum, here]
    cases s₂ <;> rfl

theorem place?_zero_add (h : place? z = some (.of 0 0 0)) : place? (z + x) = place? x := by
  rw [add_comm, place?_add_zero h]

theorem unpack_of_place? (h : place? x = none) : x.toModel.unpack = .notANumber := by
  rw [place?] at h
  generalize x.toModel.unpack = u at *
  rcases u with ⟨_ | _⟩ | _ | _ | ⟨_ | _, m, e, _⟩ <;> first | rfl | contradiction

theorem place?_add_of_none (h : place? x = none) : place? (x + y) = none := by
  have lost : add .binary64 .notANumber y.toModel.unpack = .notANumber := rfl
  rw [place?, unpack_add, unpack_of_place? h, lost]
  rfl

theorem place?_add_of_none' (h : place? y = none) : place? (x + y) = none := by
  rw [add_comm, place?_add_of_none h]

theorem unpack_mul (x y : Float) :
    (x * y).toModel.unpack = settle (mul .binary64 x.toModel.unpack y.toModel.unpack) := rfl

theorem neg_mul_sign (s s' : Sign) : -s * s' = -(s * s') := by
  cases s <;> cases s' <;> rfl

theorem roundWithAccuracy_neg (s : Sign) (m : Nat) (e : Int) :
    roundWithAccuracy .binary64 (-s) m e .exact =
      (roundWithAccuracy .binary64 s m e .exact).neg := by
  unfold roundWithAccuracy
  dsimp only
  split <;> rfl

theorem neg_mul (x y : Float) : -x * y = -(x * y) := by
  refine eq_of_unpack ?_
  rw [unpack_neg, unpack_mul, unpack_mul, unpack_neg, ← settle_neg]
  congr 1
  rcases x.toModel.unpack with s | _ | s | ⟨s, m, e, _⟩ <;>
    rcases y.toModel.unpack with s' | _ | s' | ⟨s', m', e', _⟩ <;>
    simp [mul, UnpackedFloat.neg, neg_mul_sign]
  case finite.finite => exact roundWithAccuracy_neg _ _ _

theorem shiftRight_mul_two_pow (m k : Nat) :
    ExtendedMantissa.mk (m * 2 ^ k) false false >>> k = .mk m false false := by
  induction k generalizing m with
  | zero =>
    rw [Nat.pow_zero, Nat.mul_one]
    rfl
  | succ k ih =>
    have step : ExtendedMantissa.mk (m * 2 ^ (k + 1)) false false >>> (k + 1) =
        (ExtendedMantissa.mk (m * 2 * 2 ^ k) false false >>> k).shiftRightOne := by
      rw [Nat.mul_assoc, ← Nat.pow_succ']
      rfl
    rw [step, ih]
    simp [ExtendedMantissa.shiftRightOne]

theorem totalExponent_mul_two_pow {m : Nat} (pos : 0 < m) (e : Int) (k : Nat) :
    totalExponent (m * 2 ^ k) (e - k) = totalExponent m e := by
  have digits : (m * 2 ^ k).log2 = m.log2 + k := by
    induction k with
    | zero => rw [Nat.pow_zero, Nat.mul_one, Nat.add_zero]
    | succ k ih =>
      have nonzero : m * 2 ^ k ≠ 0 := (Nat.mul_pos pos (Nat.two_pow_pos k)).ne'
      rw [Nat.pow_succ', Nat.mul_left_comm, Nat.log2_two_mul nonzero, ih, Nat.add_assoc]
  rw [totalExponent, totalExponent, digits]
  omega

/-- Zeros behind the digits do not count. -/
theorem roundWithAccuracy_mul_two_pow {m : Nat} {e : Int} (s : Sign) (pos : 0 < m) (k : Nat)
    (canonical : Format.binary64.targetExponent (totalExponent m e) = e) :
    roundWithAccuracy .binary64 s (m * 2 ^ k) (e - k) .exact = .finite s m e pos := by
  have first : shiftToTargetExponent .binary64 (m * 2 ^ k) (e - k) .exact =
      (.mk m false false, e) := by
    have places : (e - (e - (k : Int))).toNat = k := by omega
    simp only [shiftToTargetExponent, totalExponent_mul_two_pow pos, canonical, shiftToExponent,
      places, ExtendedMantissa.ofMantissaAndAccuracy, shiftRight_mul_two_pow]
    rw [Int.sub_add_cancel]
  have second : shiftToTargetExponent .binary64 m e .exact = (.mk m false false, e) := by
    simp only [shiftToTargetExponent, canonical, shiftToExponent, Int.sub_self]
    rw [Int.toNat_zero, Int.natCast_zero, Int.add_zero]
    rfl
  have rounded : (ExtendedMantissa.mk m false false).roundedMantissa = m := rfl
  rw [roundWithAccuracy, first]
  dsimp only
  simp only [rounded, second]
  rw [dif_neg pos.ne']

theorem canonical_unpack {s : Sign} {m : Nat} {e : Int} {pos : 0 < m}
    (h : x.toModel.unpack = .finite s m e pos) :
    Format.binary64.targetExponent (totalExponent m e) = e := by
  obtain ⟨s', e', m', fields⟩ := exists_word x.toBits
  have told : x.toModel.unpack = unpack .binary64 x.toBits.toBitVec := rfl
  have small := m'.isLt
  have target (t : Int) : Format.binary64.targetExponent t = max (t - 53) (-1074) := rfl
  rw [target, totalExponent]
  rw [told, fields, unpack_word] at h
  split at h
  next => split at h <;> contradiction
  next =>
    split at h
    next =>
      split at h
      next => contradiction
      next nonzero =>
        cases h
        have digits := (Nat.log2_lt (k := 52) pos.ne').2 small
        omega
    next least =>
      cases h
      rw [Decimal.log2_eq (k := 52) (by omega) (by omega)]
      have : e'.toNat ≠ 0 := fun h => least (BitVec.toNat_inj.1 h)
      omega

theorem one_mul (x : Float) : 1 * x = x := by
  refine eq_of_unpack ?_
  have one : (1 : Float).toModel.unpack = .finite .positive (2 ^ 52) (-52) (by decide) := rfl
  have unsigned (s : Sign) : .positive * s = s := by cases s <;> rfl
  have product : mul .binary64 (1 : Float).toModel.unpack x.toModel.unpack = x.toModel.unpack := by
    rw [one]
    cases h : x.toModel.unpack with
    | notANumber => rfl
    | infinity s => simp only [mul, unsigned]
    | zero s => simp only [mul, unsigned]
    | finite s m e pos =>
      simp only [mul, unsigned]
      rw [Nat.mul_comm, Int.add_comm]
      exact roundWithAccuracy_mul_two_pow s pos 52 (canonical_unpack h)
  rw [unpack_mul, product, settle_unpack]

theorem settle_zero (s : Sign) : settle (.zero s) = .zero s := by
  cases s <;> rfl

theorem place?_zero_mul (h : place? z = some (.of 0 0 0)) :
    place? (z * x) = if x.isFinite then some (.of 0 0 0) else none := by
  obtain ⟨s, zero⟩ := place?_eq_zero_iff.1 h
  rw [place?, unpack_mul, zero, isFinite_eq]
  cases x.toModel.unpack with
  | notANumber =>
    simp only [mul]
    rfl
  | infinity =>
    simp only [mul]
    rfl
  | zero =>
    simp only [mul, settle_zero]
    rfl
  | finite =>
    simp only [mul, settle_zero]
    rfl

theorem settle_infinity (s : Sign) : settle (.infinity s) = .infinity s := by
  cases s <;> rfl

theorem isFinite_of_mul (finite : (x * y).isFinite = true) : x.isFinite = true := by
  rw [isFinite_eq, unpack_mul] at finite
  rw [isFinite_eq]
  revert finite
  cases x.toModel.unpack with
  | notANumber =>
    simp only [mul]
    exact id
  | infinity =>
    cases y.toModel.unpack <;> simp only [mul, settle_infinity] <;> exact id
  | zero => exact fun _ => rfl
  | finite => exact fun _ => rfl

theorem beq_zero_iff : (x == 0) = true ↔ place? x = some (.of 0 0 0) := by
  simp [beq_iff, place?_zero]

theorem pos_iff : 0 < x ↔ ∃ p, place? x = some p ∧ .of 0 0 0 < p := by
  simp [lt_iff, place?_zero]

theorem Place.opposite_of (k e m : Int) : (of k e m).opposite = of (-k) (-e) (-m) := rfl

theorem Place.zero_lt_opposite : .of 0 0 0 < p.opposite ↔ p < .of 0 0 0 := by
  obtain ⟨k, e, m, rfl⟩ : ∃ k e m, p = of k e m := ⟨_, _, _, rfl⟩
  rw [opposite_of, of_lt_of, of_lt_of]
  omega

theorem neg_pos_iff : 0 < -x ↔ ∃ p, place? x = some p ∧ p < .of 0 0 0 := by
  rw [pos_iff, place?_neg]
  constructor
  · rintro ⟨q, here, above⟩
    obtain ⟨p, given, rfl⟩ := Option.map_eq_some_iff.1 here
    exact ⟨p, given, Place.zero_lt_opposite.1 above⟩
  · rintro ⟨p, given, below⟩
    exact ⟨p.opposite, by rw [given, Option.map_some], Place.zero_lt_opposite.2 below⟩

theorem zero_mul (finite : y.isFinite = true) (zero : (x == 0) = true) : (x * y == 0) = true := by
  rw [beq_zero_iff] at *
  rw [place?_zero_mul zero, if_pos finite]

theorem lt_zero_iff : x < 0 ↔ 0 < -x := by
  rw [neg_pos_iff]
  simp [lt_iff, place?_zero]

theorem neg_beq_zero (x : Float) : (-x == 0) = (x == 0) := by
  have zero : place? (-0) = some (.of 0 0 0) := rfl
  rw [← neg_beq_neg x 0, Bool.eq_iff_iff, beq_zero_iff]
  simp [beq_iff, zero]

theorem isNaN_of_pos (positive : 0 < x) : x.isNaN = false := by
  obtain ⟨p, here, -⟩ := pos_iff.1 positive
  rw [← Bool.not_eq_true, isNaN_iff, here]
  exact Option.some_ne_none p

theorem isNaN_of_neg_pos (negative : 0 < -x) : x.isNaN = false := by
  obtain ⟨p, here, -⟩ := neg_pos_iff.1 negative
  rw [← Bool.not_eq_true, isNaN_iff, here]
  exact Option.some_ne_none p

theorem not_neg_pos (positive : 0 < x) : ¬0 < -x := by
  intro negative
  obtain ⟨p, here, above⟩ := pos_iff.1 positive
  obtain ⟨q, given, below⟩ := neg_pos_iff.1 negative
  cases here.symm.trans given
  exact lt_asymm above below

theorem not_pos_iff (number : x.isNaN = false) (nonzero : (x == 0) = false) :
    ¬0 < x ↔ 0 < -x := by
  refine ⟨fun notAbove => ?_, fun negative positive => not_neg_pos positive negative⟩
  obtain ⟨p, here⟩ := exists_place number
  rcases lt_trichotomy p (.of 0 0 0) with below | rfl | above
  · exact neg_pos_iff.2 ⟨p, here, below⟩
  · rw [beq_zero_iff.2 here] at nonzero
    contradiction
  · exact absurd (pos_iff.2 ⟨p, here, above⟩) notAbove

theorem unpack_of_pos (positive : 0 < x) : x.toModel.unpack = .infinity .positive ∨
    ∃ m e pos, x.toModel.unpack = .finite .positive m e pos := by
  rw [pos_iff, place?] at positive
  revert positive
  rcases x.toModel.unpack with ⟨_ | _⟩ | _ | _ | ⟨_ | _, m, e, pos⟩ <;>
    simp [placeOf?, Place.of_lt_of]
  exact pos

theorem pos_of_signOf? (sign : signOf? x.toModel.unpack = some .positive)
    (nonzero : (x == 0) = false) : 0 < x := by
  rw [← Bool.not_eq_true, beq_zero_iff, place?] at nonzero
  rw [pos_iff, place?]
  revert sign nonzero
  rcases x.toModel.unpack with ⟨_ | _⟩ | _ | _ | ⟨_ | _, m, e, pos⟩ <;>
    simp [placeOf?, Place.of_lt_of, signOf?]

theorem mul_pos (hx : 0 < x) (hy : 0 < y) (nonzero : (x * y == 0) = false) : 0 < x * y := by
  refine pos_of_signOf? ?_ nonzero
  rw [unpack_mul, signOf?_settle]
  rcases unpack_of_pos hx with h | ⟨m, e, pos, h⟩ <;>
    rcases unpack_of_pos hy with h' | ⟨m', e', pos', h'⟩ <;> rw [h, h']
  · rfl
  · rfl
  · rfl
  · simp only [mul, roundWithAccuracy]
    split <;> rfl

theorem pos_mul_iff (number : x.isNaN = false) (nonzero : (x == 0) = false) (hy : 0 < y)
    (left : (x * y == 0) = false) : 0 < x * y ↔ 0 < x := by
  constructor
  · intro product
    by_contra negative
    have opposite : 0 < -x * y := by
      refine mul_pos ((not_pos_iff number nonzero).1 negative) hy ?_
      rw [neg_mul, neg_beq_zero, left]
    rw [neg_mul] at opposite
    exact not_neg_pos product opposite
  · exact fun hx => mul_pos hx hy left

end Articulation.Number
