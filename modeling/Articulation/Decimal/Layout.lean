import Articulation.Decimal.Shortest
/-!
How a floating-point number is written down.
-/
set_option autoImplicit false

namespace Articulation.Decimal

/-- The choices that the formats make: the exponents from `least` to `most` are written without an
exponent, the others with at least two exponent digits. -/
structure Layout where
  least : Int
  most : Int
  /-- Whether a lone digit before an exponent takes a point and a zero. -/
  pointBeforeExponent : Bool
  infinity : String
  negativeInfinity : String
  notANumber : String

def zeros (n : Nat) : List Char := List.replicate n '0'

/-- Digits that stand for `0.d₁d₂… * 10 ^ point`, without an exponent. -/
def positional (ds : List Char) (point : Int) : List Char :=
  if point ≤ 0 then '0' :: '.' :: zeros point.natAbs ++ ds
  else if ds.length ≤ point.natAbs then ds ++ zeros (point.natAbs - ds.length) ++ ['.', '0']
  else ds.take point.natAbs ++ '.' :: ds.drop point.natAbs

def exponentText (e : Int) : List Char :=
  let ds := Nat.toDigits 10 e.natAbs
  (if e < 0 then '-' else '+') :: (zeros (2 - ds.length) ++ ds)

def scientific (l : Layout) (ds : List Char) (point : Int) : List Char :=
  let head := match ds with
    | [d] => if l.pointBeforeExponent then [d, '.', '0'] else [d]
    | d :: rest => d :: '.' :: rest
    | [] => []
  head ++ 'e' :: exponentText (point - 1)

def significant (d : Decimal) : List Char × Int :=
  let ds := Nat.toDigits 10 d.digits
  ((ds.reverse.dropWhile (· == '0')).reverse, ds.length + d.exponent)

def Layout.magnitude (l : Layout) (x : Float) : List Char :=
  let d := shortest x
  if d.digits = 0 then ['0', '.', '0']
  else
    let (ds, point) := significant d
    if l.least ≤ point - 1 ∧ point - 1 ≤ l.most then positional ds point else scientific l ds point

/-- The sign of a zero is written, that of a value which is no number is not. -/
def Layout.write (l : Layout) (x : Float) : String :=
  if x.isNaN then l.notANumber
  else if x.isInf then if isNegative x then l.negativeInfinity else l.infinity
  else String.ofList (if isNegative x then '-' :: l.magnitude x else l.magnitude x)

def plain : Layout := ⟨-4, 15, false, "inf", "-inf", "nan"⟩

def roundedUnits (r : Ratio) (places : Nat) : Nat :=
  let scaled := r.num * Nat.pow 10 places
  let below := scaled / r.den
  let twice := 2 * (scaled % r.den)
  if r.den < twice || (twice == r.den && below % 2 == 1) then below + 1 else below

def withPlaces (units places : Nat) : List Char :=
  let ds := Nat.toDigits 10 units
  let ds := zeros (places + 1 - ds.length) ++ ds
  ds.take (ds.length - places) ++ '.' :: ds.drop (ds.length - places)

def fixed (places : Nat) (x : Float) : String :=
  if x.isNaN || x.isInf then plain.write x
  else
    let ds := withPlaces (roundedUnits (Decimal.magnitude x) places) places
    String.ofList (if isNegative x then '-' :: ds else ds)

end Articulation.Decimal

namespace Articulation

def floatText (x : Float) : String := Decimal.plain.write x

example : floatText 1e16 = "1e+16" ∧ floatText 1e15 = "1000000000000000.0" ∧
    floatText 0.0001 = "0.0001" ∧ floatText 0.00001 = "1e-05" ∧ floatText (-0.0) = "-0.0" := by
  decide +kernel

example : Decimal.fixed 2 2.675 = "2.67" ∧ Decimal.fixed 2 0.125 = "0.12" ∧
    Decimal.fixed 3 (-0.0001) = "-0.000" := by decide +kernel

end Articulation
