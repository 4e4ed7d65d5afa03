/-!
The floating-point number that is nearest to a rational one.
-/
set_option autoImplicit false

namespace Articulation.Decimal

def binaryExponent (v : Rat) : Int :=
  let e : Int := (Nat.log2 v.num.natAbs : Int) - Nat.log2 v.den
  if v < (2 : Rat) ^ e then e - 1 else e

/-- The exponent of the last binary digit that a floating-point number of that size has. -/
def lastPlace (v : Rat) : Int := max (binaryExponent v - 52) (-1074)

def roundHalfEven (v : Rat) : Nat :=
  let below := v.floor.toNat
  let rest := v - below
  if 1 / 2 < rest || (rest == 1 / 2 && below % 2 == 1) then below + 1 else below

def infinityWord : Nat := 2047 * Nat.pow 2 52

/-- The word of the nearest floating-point number. Words are ordered as the numbers are, so rounding
up to the next power of two needs no care. -/
def nearestWord (v : Rat) : Nat :=
  let e := lastPlace v
  min ((e + 1074).toNat * Nat.pow 2 52 + roundHalfEven (v / (2 : Rat) ^ e)) infinityWord

def nearest (v : Rat) : Float := Float.ofBits (UInt64.ofNat (nearestWord v))

example : nearest (3 / 8) = 0.375 ∧ nearest (1 / 3) = 1.0 / 3.0 ∧
    nearest (Nat.pow 2 1024) = 1.0 / 0.0 := by decide +kernel

end Articulation.Decimal
