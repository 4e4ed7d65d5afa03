/-!
Texts as bytes.
-/
set_option autoImplicit false

namespace Articulation.Text

inductive Utf8Fault where
  | badStart | badContinuation | cutShort
  deriving DecidableEq, Repr

def Utf8Fault.message : Utf8Fault → String
  | badStart => "invalid start byte"
  | badContinuation => "invalid continuation byte"
  | cutShort => "unexpected end of data"

structure Utf8Error where
  byte : UInt8
  position : Nat
  count : Nat
  fault : Utf8Fault
  deriving DecidableEq, Repr

def continues (b : UInt8) : Bool := 0x80 ≤ b && b < 0xC0

/-- The bytes that a first byte asks for after it, and the least and the greatest value of the
second; the bounds leave out surrogates, numbers that are too large and those that have a shorter
form. -/
def lengthAfter (b : UInt8) : Option (Nat × UInt8 × UInt8) :=
  if 0xC2 ≤ b && b < 0xE0 then some (1, 0x80, 0xBF)
  else if b == 0xE0 then some (2, 0xA0, 0xBF)
  else if b == 0xED then some (2, 0x80, 0x9F)
  else if 0xE0 < b && b < 0xF0 then some (2, 0x80, 0xBF)
  else if b == 0xF0 then some (3, 0x90, 0xBF)
  else if b == 0xF4 then some (3, 0x80, 0x8F)
  else if 0xF0 < b && b < 0xF4 then some (3, 0x80, 0xBF)
  else none

/-- How many of the bytes that should continue a character do, of at most `n`. -/
def continuation (n : Nat) (low high : UInt8) (bs : List UInt8) : Nat :=
  match bs.take n with
  | [] => 0
  | b :: rest => if low ≤ b && b ≤ high then 1 + (rest.takeWhile continues).length else 0

def payload (b : UInt8) (n : Nat) : Nat := b.toNat % Nat.pow 2 (6 - n)

def decodeFirst (b : UInt8) (bs : List UInt8) : Except (Nat × Utf8Fault) (Char × Nat) :=
  if b < 0x80 then .ok (Char.ofNat b.toNat, 1)
  else match lengthAfter b with
    | none => .error (1, .badStart)
    | some (n, low, high) =>
      let good := continuation n low high bs
      if good = n then
        .ok (Char.ofNat ((bs.take n).foldl (fun c b => 64 * c + b.toNat % 64) (payload b n)), n + 1)
      else if bs.length = good then .error (good + 1, .cutShort)
      else .error (good + 1, .badContinuation)

def decodeFrom (position : Nat) : List UInt8 → Except Utf8Error (List Char)
  | [] => .ok []
  | b :: bs =>
    match decodeFirst b bs with
    | .error (count, fault) => .error ⟨b, position, count, fault⟩
    | .ok (c, n) => (decodeFrom (position + n) (bs.drop (n - 1))).map (c :: ·)
termination_by bs => bs.length

def decodeUtf8 (bs : List UInt8) : Except Utf8Error (List Char) := decodeFrom 0 bs

def Utf8Error.message (e : Utf8Error) : String :=
  let byte := String.ofList ("0123456789abcdef".toList.getD (e.byte.toNat / 16) '0' ::
    "0123456789abcdef".toList.getD (e.byte.toNat % 16) '0' :: [])
  if e.count = 1 then
    s!"'utf-8' codec can't decode byte 0x{byte} in position {e.position}: {e.fault.message}"
  else
    let last := e.position + e.count - 1
    s!"'utf-8' codec can't decode bytes in position {e.position}-{last}: {e.fault.message}"

def unifyLineEnds : List Char → List Char
  | [] => []
  | '\r' :: '\n' :: cs => '\n' :: unifyLineEnds cs
  | c :: cs => (if c = '\r' then '\n' else c) :: unifyLineEnds cs

end Articulation.Text
