import Articulation.Data
import Articulation.Decimal.Layout
import Articulation.Yaml.Tag
/-!
Data written as YAML in ASCII, in blocks. A text is written plainly if it reads back as that text,
else between quotes. Lines break at single spaces once they are too long.
-/
set_option autoImplicit false

namespace Articulation.Yaml

inductive Style where
  | plain | single | double
  deriving DecidableEq, Repr

def isSpecial (c : Char) : Bool := !(c == '\n' || (0x20 ≤ c.toNat && c.toNat ≤ 0x7E))

def isLeadingMark (c : Char) (cs : List Char) : Bool :=
  "#,[]\x7b\x7d&*!|>'\"%@`".toList.contains c || ("?:-".toList.contains c && atGap cs)

/-- Whether there is a mark of a key or of a comment after the first character, which is given. -/
def hasInnerMark (previous : Char) : List Char → Bool
  | [] => false
  | c :: cs =>
    (c == ':' && atGap cs) || (c == '#' && (isBlank previous || isBreak previous)) ||
      hasInnerMark c cs

def isPlain (cs : List Char) : Bool :=
  match cs with
  | [] => false
  | c :: rest =>
    c != ' ' && cs.getLast? != some ' ' && !cs.any (fun c => isSpecial c || c == '\n') &&
      cs.take 3 != ['-', '-', '-'] && cs.take 3 != ['.', '.', '.'] && !isLeadingMark c rest &&
      !hasInnerMark c rest

def hasLooseBreak : List Char → Bool
  | a :: b :: cs => (a == ' ' && b == '\n') || (a == '\n' && b == ' ') || hasLooseBreak (b :: cs)
  | _ => false

def style (cs : List Char) : Style :=
  if isPlain cs && Tag.ofPlain cs == .text then .plain
  else if cs.any isSpecial || hasLooseBreak cs then .double
  else .single

def lineWidth : Nat := 80

def spaces (n : Nat) : List Char := List.replicate n ' '

def newLine (indent : Nat) : List Char := '\n' :: spaces indent

/-- How a text may go on in the next line: not at all, or with so many spaces in front. -/
abbrev Continuation := Option Nat

def unescaped (isQuoted : Bool) (next : Continuation) (previous : Option Char) (column : Nat) :
    List Char → List Char
  | [] => []
  | c :: cs =>
    if c = '\n' then
      let indent := next.getD 0
      let breaks := if previous = some '\n' then ['\n'] else ['\n', '\n']
      if cs.head? = some '\n' then breaks ++ unescaped isQuoted next (some c) 0 cs
      else breaks ++ spaces indent ++ unescaped isQuoted next (some c) indent cs
    else if isQuoted && c == '\x27' then
      c :: c :: unescaped isQuoted next (some c) (column + 2) cs
    else
      let isAlone := c == ' ' && previous.any (· != ' ') && cs.head?.any (· != ' ')
      match next with
      | some indent =>
        if isAlone && lineWidth < column then
          newLine indent ++ unescaped isQuoted next (some c) indent cs
        else c :: unescaped isQuoted next (some c) (column + 1) cs
      | none => c :: unescaped isQuoted next (some c) (column + 1) cs

def upperHex (width n : Nat) : List Char := (Text.hex width n).map Char.toUpper

def shortEscapes : List (Char × Char) := [
  ('\x00', '0'), ('\x07', 'a'), ('\x08', 'b'), ('\t', 't'), ('\n', 'n'), ('\x0B', 'v'),
  ('\x0C', 'f'), ('\r', 'r'), ('\x1B', 'e'), ('"', '"'), ('\\', '\\'), (nextLine, 'N'),
  ('\xA0', '_'), (lineSeparator, 'L'), (paragraphSeparator, 'P')]

def escape? (c : Char) : Option (List Char) :=
  match shortEscapes.lookup c with
  | some e => some ['\\', e]
  | none =>
    if 0x20 ≤ c.toNat ∧ c.toNat ≤ 0x7E then none
    else if c.toNat ≤ 0xFF then some ('\\' :: 'x' :: upperHex 2 c.toNat)
    else if c.toNat ≤ 0xFFFF then some ('\\' :: 'u' :: upperHex 4 c.toNat)
    else some ('\\' :: 'U' :: upperHex 8 c.toNat)

/-- A text between double quotes after its first character or before it. A line ends in front of a
space or after an escape, with a backslash; one more goes before a space that begins a line. -/
def escaped (next : Continuation) (isFirst afterEscape : Bool) (column : Nat) :
    List Char → List Char
  | [] => []
  | c :: cs =>
    let mayBreak := next.isSome && !isFirst && !cs.isEmpty
    let indent := next.getD 0
    match escape? c with
    | some e =>
      if mayBreak && lineWidth < column + e.length - 1 then
        if cs.head? = some ' ' then
          e ++ '\\' :: newLine indent ++ '\\' :: escaped next false true (indent + 1) cs
        else e ++ '\\' :: newLine indent ++ escaped next false true indent cs
      else e ++ escaped next false true (column + e.length) cs
    | none =>
      if mayBreak && (c == ' ' || afterEscape) && lineWidth < column then
        if c = ' ' then '\\' :: newLine indent ++ '\\' :: c :: escaped next false false (indent + 2) cs
        else '\\' :: newLine indent ++ c :: escaped next false false (indent + 1) cs
      else c :: escaped next false false (column + 1) cs

def textForm (next : Continuation) (column : Nat) (s : String) : List Char :=
  let cs := s.toList
  match style cs with
  | .plain => unescaped false next none column cs
  | .single => '\x27' :: unescaped true next none (column + 1) cs ++ ['\x27']
  | .double => '"' :: escaped next true false (column + 1) cs ++ ['"']

def number : Decimal.Layout := ⟨-4, 15, true, ".inf", "-.inf", ".nan"⟩

def isSimpleKey (key : String) : Bool :=
  !key.isEmpty && !key.toList.contains '\n' && key.length < 123

def block (indent : Nat) (isInline : Bool) (parts : List (List Char)) : List Char :=
  (if isInline then [' '] else newLine indent) ++ List.intercalate (newLine indent) parts

/-- Data after a mark that ends at a column, in a block with some indentation; lists below a key
are not indented further. -/
def form (indent column : Nat) (isInline : Bool) : Data → List Char
  | .null => " null".toList
  | .truth b => (if b then " true" else " false").toList
  | .integer i => ' ' :: (toString i).toList
  | .real x => ' ' :: (number.write x).toList
  | .text s => ' ' :: textForm (some (indent + 2)) (column + 1) s
  | .list items =>
    if items.isEmpty then " []".toList
    else
      let inner := if isInline then indent + 2 else indent
      block inner isInline (itemForms inner items)
  | .record fields =>
    if fields.isEmpty then " \x7b\x7d".toList
    else block (indent + 2) isInline (fieldForms (indent + 2) fields)
where
  itemForms (indent : Nat) : List Data → List (List Char)
    | [] => []
    | d :: ds => ('-' :: form indent (indent + 1) true d) :: itemForms indent ds
  fieldForms (indent : Nat) : List (String × Data) → List (List Char)
    | [] => []
    | (key, d) :: fields =>
      let field :=
        if isSimpleKey key then
          let k := textForm none indent key
          k ++ ':' :: form indent (indent + k.length + 1) false d
        else
          '?' :: ' ' :: textForm (some (indent + 2)) (indent + 2) key ++ newLine indent ++
            ':' :: form indent (indent + 1) true d
      field :: fieldForms indent fields

def text (fields : List (String × Data)) : String :=
  String.ofList (List.intercalate ['\n'] (form.fieldForms 0 fields) ++ ['\n'])

example : text [("a", .list [.integer 1, .text "yes"]), ("b", .record [("c", .real 1e16)])] =
    "a:\n- 1\n- 'yes'\nb:\n  c: 1.0e+16\n" := by decide +kernel

end Articulation.Yaml
