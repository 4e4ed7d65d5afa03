import Articulation.Data
import Articulation.Decimal.Layout
/-!
Data written as JSON, in ASCII.
-/
set_option autoImplicit false

namespace Articulation.Json

open Text (hex)

/-- Characters beyond the basic plane are written as a surrogate pair. -/
def escaped (c : Char) : List Char :=
  let n := c.toNat
  if c = '"' ∨ c = '\\' then ['\\', c]
  else if c = '\n' then ['\\', 'n']
  else if c = '\r' then ['\\', 'r']
  else if c = '\t' then ['\\', 't']
  else if n = 8 then ['\\', 'b']
  else if n = 12 then ['\\', 'f']
  else if 32 ≤ n ∧ n < 127 then [c]
  else if n < 0x10000 then '\\' :: 'u' :: hex 4 n
  else
    '\\' :: 'u' :: hex 4 (0xD800 + (n - 0x10000) / 0x400) ++
      '\\' :: 'u' :: hex 4 (0xDC00 + (n - 0x10000) % 0x400)

def quotedText (s : String) : String := String.ofList ('"' :: s.toList.flatMap escaped ++ ['"'])

def number : Decimal.Layout := ⟨-4, 15, false, "Infinity", "-Infinity", "NaN"⟩

/-- Where the items of a list or record stand: each on a line of its own, indented by so many
blanks, or all on one line. -/
abbrev Indent := Option Nat

def lineBreak (indent : Indent) (depth : Nat) : String :=
  match indent with
  | none => ""
  | some width => "\n" ++ String.ofList (List.replicate (width * depth) ' ')

def separator (indent : Indent) : String := if indent.isSome then "," else ", "

def bracketed (indent : Indent) (depth : Nat) (left right : String) (items : List String) :
    String :=
  if items.isEmpty then left ++ right
  else
    let between := separator indent ++ lineBreak indent (depth + 1)
    left ++ lineBreak indent (depth + 1) ++ String.intercalate between items ++
      lineBreak indent depth ++ right

def leftBrace : String := "\x7b"

def rightBrace : String := "\x7d"

def write (indent : Indent) (depth : Nat) : Data → String
  | .null => "null"
  | .truth b => if b then "true" else "false"
  | .integer i => toString i
  | .real x => number.write x
  | .text s => quotedText s
  | .list items => bracketed indent depth "[" "]" (writeItems indent (depth + 1) items)
  | .record fields =>
    bracketed indent depth leftBrace rightBrace (writeFields indent (depth + 1) fields)
where
  writeItems (indent : Indent) (depth : Nat) : List Data → List String
    | [] => []
    | d :: ds => write indent depth d :: writeItems indent depth ds
  writeFields (indent : Indent) (depth : Nat) : List (String × Data) → List String
    | [] => []
    | (key, d) :: fields =>
      (quotedText key ++ ": " ++ write indent depth d) :: writeFields indent depth fields

def text (indent : Indent) (d : Data) : String := write indent 0 d

example : text (some 2) (.record [("a", .list [.integer 1, .real 2]), ("b", .list [])]) =
    leftBrace ++ "\n  \"a\": [\n    1,\n    2.0\n  ],\n  \"b\": []\n" ++ rightBrace := by
  decide +kernel

end Articulation.Json
