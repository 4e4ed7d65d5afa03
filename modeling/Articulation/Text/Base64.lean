/-!
Bytes written with sixty-four letters, four of them for three bytes.
-/
set_option autoImplicit false

namespace Articulation.Text

def base64Value? (c : Char) : Option Nat :=
  if 'A' ≤ c && c ≤ 'Z' then some (c.toNat - 65)
  else if 'a' ≤ c && c ≤ 'z' then some (c.toNat - 71)
  else if c.isDigit then some (c.toNat + 4)
  else if c = '+' then some 62
  else if c = '/' then some 63
  else none

/-- The letters up to the padding that completes a group of four; all other characters are skipped.
The number of padding marks since the last letter is given, and how many letters there were. -/
def base64Letters (pads count : Nat) : List Char → List Nat × Bool
  | [] => ([], count % 4 == 0)
  | c :: cs =>
    if c = '=' then
      if 2 ≤ count % 4 ∧ 4 ≤ count % 4 + pads + 1 then ([], true)
      else base64Letters (if 2 ≤ count % 4 then pads + 1 else pads) count cs
    else match base64Value? c with
      | some n =>
        let (ns, isComplete) := base64Letters 0 (count + 1) cs
        (n :: ns, isComplete)
      | none => base64Letters pads count cs

def base64Bytes : List Nat → List UInt8
  | a :: b :: c :: d :: ns =>
    .ofNat (a * 4 + b / 16) :: .ofNat (b % 16 * 16 + c / 4) :: .ofNat (c % 4 * 64 + d) ::
      base64Bytes ns
  | [a, b, c] => [.ofNat (a * 4 + b / 16), .ofNat (b % 16 * 16 + c / 4)]
  | [a, b] => [.ofNat (a * 4 + b / 16)]
  | _ => []

def decodeBase64? (cs : List Char) : Option (List UInt8) :=
  match base64Letters 0 0 cs with
  | (ns, true) => some (base64Bytes ns)
  | (_, false) => none

example : decodeBase64? "eg==".toList = some [0x7A] ∧ decodeBase64? "eg=".toList = none := by
  decide +kernel

end Articulation.Text
