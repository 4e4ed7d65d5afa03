import Articulation.Decimal.Binary
import Articulation.Decimal.Nearest
import Articulation.Text.Digit
/-!
The fewest decimal digits that read back as a given floating-point number.
-/
set_option autoImplicit false

namespace Articulation

structure Decimal where
  digits : Nat
  exponent : Int
  deriving DecidableEq, Repr

namespace Decimal

def value (d : Decimal) : Rat := d.digits * (10 : Rat) ^ d.exponent

/-- The nearest floating-point number. The exponent may be far outside what such a number can hold;
what comes of it is then plain from the size alone. -/
def toFloat (d : Decimal) : Float :=
  let size := d.exponent + (Text.digitsOf d.digits).length
  if d.digits = 0 ∨ size < -400 then 0.0
  else if 400 < size then 1.0 / 0.0
  else nearest d.value

def readsBackAs (x : Float) (d : Decimal) : Bool := sameNumber d.toFloat x

/-- The number of digits before the decimal point; for a number below one it is the negated
number of zeros that follow the point. -/
def pointPosition (r : Ratio) : Int :=
  if r.den ≤ r.num then (Text.digitsOf (r.num / r.den)).length
  else 1 - (Text.digitsOf ((r.den + r.num - 1) / r.num - 1)).length

def Ratio.unscale (r : Ratio) (e : Int) : Ratio :=
  if e < 0 then ⟨r.num * Nat.pow 10 e.natAbs, r.den⟩ else ⟨r.num, r.den * Nat.pow 10 e.natAbs⟩

/-- The nearer of the two neighbours on a decimal grid first; of two equally near the even one. -/
def neighbours (r : Ratio) (e : Int) : List Decimal :=
  let u := r.unscale e
  let below := u.num / u.den
  let twice := 2 * (u.num % u.den)
  if twice < u.den || (twice == u.den && below % 2 == 0) then [⟨below, e⟩, ⟨below + 1, e⟩]
  else [⟨below + 1, e⟩, ⟨below, e⟩]

/-- The neighbours with at most one digit, two digits, and so on to seventeen, which always
suffice. -/
def candidates (r : Ratio) : List Decimal :=
  (List.range 17).flatMap fun k => neighbours r (pointPosition r - (k + 1 : Nat))

def exactly (r : Ratio) : Decimal :=
  let places := Nat.log2 r.den
  ⟨r.num * Nat.pow 10 places / r.den, -(places : Int)⟩

/-- The shortest decimal that reads back as the absolute value of a finite number. -/
def shortest (x : Float) : Decimal :=
  let r := magnitude x
  if r.num = 0 then ⟨0, 0⟩
  else ((candidates r).find? (readsBackAs x.abs)).getD (exactly r)

theorem readsBack_of_find? {x : Float} {d : Decimal} {ds : List Decimal}
    (h : ds.find? (readsBackAs x) = some d) : readsBackAs x d = true :=
  List.find?_some h

example : shortest 0.1 = ⟨1, -1⟩ ∧ shortest (0.1 + 0.2) = ⟨30000000000000004, -17⟩ := by
  decide +kernel

end Decimal

end Articulation
