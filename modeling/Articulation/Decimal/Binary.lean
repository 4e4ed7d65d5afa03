/-!
The exact value of a floating-point number.
-/
set_option autoImplicit false

namespace Articulation.Decimal

structure Ratio where
  num : Nat
  den : Nat
  deriving DecidableEq, Repr

def fractionField (x : Float) : Nat := x.toBits.toNat % Nat.pow 2 52

def exponentField (x : Float) : Nat := x.toBits.toNat / Nat.pow 2 52 % Nat.pow 2 11

def isNegative (x : Float) : Bool := Nat.pow 2 63 ≤ x.toBits.toNat

/-- The absolute value of a finite number, exactly. Numbers whose exponent field is zero have no
hidden leading bit. -/
def magnitude (x : Float) : Ratio :=
  let m := if exponentField x = 0 then fractionField x else Nat.pow 2 52 + fractionField x
  let e := max (exponentField x) 1
  if 1075 ≤ e then ⟨m * Nat.pow 2 (e - 1075), 1⟩ else ⟨m, Nat.pow 2 (1075 - e)⟩

theorem magnitude_den_pos (x : Float) : 0 < (magnitude x).den := by
  simp only [magnitude]
  split
  · exact Nat.one_pos
  · exact Nat.pow_pos Nat.two_pos

example : magnitude 0.375 = ⟨3 * Nat.pow 2 51, Nat.pow 2 54⟩ ∧ isNegative (-0.0) = true := by decide +kernel

/-- Tells the two zeros apart, and takes the value that is no number to be the same as itself. -/
def sameNumber (x y : Float) : Bool := x.toBits == y.toBits

end Articulation.Decimal
