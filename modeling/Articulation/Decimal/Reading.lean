import Articulation.Decimal.Shortest
import Articulation.Text.Blank
/-!
Reading a number from a text.
-/
set_option autoImplicit false

namespace Articulation.Decimal

def takeDigits (digit : Char → Option Nat) : List Char → List Nat × List Char
  | [] => ([], [])
  | c :: cs =>
    match digit c with
    | some d => let (ds, rest) := takeDigits digit cs; (d :: ds, rest)
    | none => ([], c :: cs)

def signed (cs : List Char) : Bool × List Char :=
  match cs with
  | '-' :: cs => (true, cs)
  | '+' :: cs => (false, cs)
  | cs => (false, cs)

def readExponent (digit : Char → Option Nat) : List Char → Option Int
  | [] => some 0
  | c :: cs =>
    if c = 'e' ∨ c = 'E' then
      let (negative, cs) := signed cs
      match takeDigits digit cs with
      | ([], _) | (_, _ :: _) => none
      | (ds, []) =>
        let n : Int := Text.natOfDigits ds
        some (if negative then -n else n)
    else none

/-- Digits, a point and an exponent, of which the point and the digits on one side of it may be
missing. -/
def readUnsigned (digit : Char → Option Nat) (cs : List Char) : Option Decimal :=
  let (whole, rest) := takeDigits digit cs
  let (fraction, rest) := match rest with
    | '.' :: rest => takeDigits digit rest
    | rest => ([], rest)
  if whole.isEmpty && fraction.isEmpty then none
  else (readExponent digit rest).map fun e =>
    ⟨Text.natOfDigits (whole ++ fraction), e - fraction.length⟩

def readNamed (cs : List Char) : Option Float :=
  let name := String.ofList (Text.lower cs)
  if name = "inf" ∨ name = "infinity" then some (1.0 / 0.0)
  else if name = "nan" then some (0.0 / 0.0)
  else none

def readSigned (digit : Char → Option Nat) (cs : List Char) : Option Float :=
  let (negative, cs) := signed cs
  let value := (readNamed cs).orElse fun _ => (readUnsigned digit cs).map toFloat
  value.map fun x => if negative then -x else x

/-- The text without its underscores, if each of them stands between two digits. -/
def dropSeparators (digit : Char → Option Nat) (afterDigit : Bool) : List Char → Option (List Char)
  | [] => some []
  | '_' :: c :: cs =>
    if afterDigit && (digit c).isSome then (dropSeparators digit true cs).map (c :: ·) else none
  | c :: cs =>
    if c = '_' then none else (dropSeparators digit (digit c).isSome cs).map (c :: ·)

/-- Blanks around the number are ignored; the four information separators are not among them. -/
def isBlankAroundNumber (c : Char) : Bool :=
  Text.isBlank c && !(28 ≤ c.toNat && c.toNat ≤ 31)

def trimNumber (cs : List Char) : List Char :=
  ((cs.dropWhile isBlankAroundNumber).reverse.dropWhile isBlankAroundNumber).reverse

end Articulation.Decimal

namespace Articulation

def readFloat? (cs : List Char) : Option Float :=
  (Decimal.dropSeparators Text.digit? false (Decimal.trimNumber cs)).bind
    (Decimal.readSigned Text.digit?)

example : (readFloat? " 1_0.5e1 ".toList).map Float.toBits = some (105.0 : Float).toBits := by
  decide +kernel

end Articulation
