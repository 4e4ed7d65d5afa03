import Articulation.Yaml.Character
import Articulation.Yaml.Failure
/-!
The texts of scalars in their four forms: plain, between quotes of either kind, and in blocks.
-/
set_option autoImplicit false

namespace Articulation.Yaml

/-- In a flow collection the marks of such collections end a plain scalar too. -/
def endsPlain (inFlow : Bool) (c : Char) (cs : List Char) : Bool :=
  isBlank c || isBreak c ||
    (c == ':' && (atGap cs || (inFlow && cs.head?.any fun d => ",[]\x7b\x7d".toList.contains d))) ||
    (inFlow && ",?[]\x7b\x7d".toList.contains c)

def plainWord (inFlow : Bool) : List Char → List Char × List Char
  | [] => ([], [])
  | c :: cs =>
    if endsPlain inFlow c cs then ([], c :: cs)
    else
      let (word, rest) := plainWord inFlow cs
      (c :: word, rest)

/-- Line ends and the spaces after them. No line may begin with a document mark; if one does there
are no line ends. The column is that of the rest. -/
def plainBreaks (column : Nat) : List Char → Option (List Char) × Nat × List Char
  | [] => (some [], column, [])
  | ' ' :: cs => plainBreaks (column + 1) cs
  | '\r' :: '\n' :: cs =>
    if atDocumentMark cs then (none, 0, cs)
    else
      let (breaks, more) := plainBreaks 0 cs
      (breaks.map ('\n' :: ·), more)
  | c :: cs =>
    if isBreak c then
      if atDocumentMark cs then (none, 0, cs)
      else
        let (breaks, more) := plainBreaks 0 cs
        (breaks.map ((((takeBreak? [c]).map Prod.fst).getD c) :: ·), more)
    else (some [], column, c :: cs)

/-- A first line end and further ones as a scalar holds them: a lone line feed is a space, and
several lose the first. -/
def folded (first : Char) (others : List Char) : List Char :=
  if first ≠ '\n' then first :: others
  else if others.isEmpty then [' ']
  else others

/-- What stands between two words of a plain scalar, if the scalar may go on after it. -/
structure PlainGap where
  text : Option (List Char)
  /-- The column of the rest, if a line end was passed. -/
  column : Option Nat
  rest : List Char

def plainGap (cs : List Char) : PlainGap :=
  let spaces := cs.takeWhile (· == ' ')
  let rest := cs.dropWhile (· == ' ')
  match takeBreak? rest with
  | none => ⟨if spaces.isEmpty then none else some spaces, none, rest⟩
  | some (first, rest) =>
    if atDocumentMark rest then ⟨none, some 0, rest⟩
    else
      let (breaks, column, rest) := plainBreaks 0 rest
      ⟨breaks.map (folded first), some column, rest⟩

structure PlainScalar where
  text : List Char
  /-- Whether the scalar was last seen to pass a line end. -/
  passedLine : Bool
  rest : List Char

/-- The words after a gap, whose text comes first. A line that is indented less than `indent` ends
the scalar outside flow collections. -/
def plainFrom (inFlow : Bool) (indent : Int) : Nat → List Char → Bool → List Char → PlainScalar
  | 0, _, passed, cs => ⟨[], passed, cs⟩
  | bound + 1, gap, passed, cs =>
    let (word, rest) := plainWord inFlow cs
    if word.isEmpty then ⟨[], passed, cs⟩
    else
      let next := plainGap rest
      let passed := next.column.isSome
      let isDedented := match next.column with
        | some column => !inFlow && (column : Int) < indent
        | none => false
      match next.text with
      | none => ⟨gap ++ word, passed, next.rest⟩
      | some text =>
        if isDedented || next.rest.head? == some '#' then ⟨gap ++ word, passed, next.rest⟩
        else
          let more := plainFrom inFlow indent bound text passed next.rest
          ⟨gap ++ word ++ more.text, more.passedLine, more.rest⟩

def readPlain (inFlow : Bool) (indent : Int) (cs : List Char) : PlainScalar :=
  plainFrom inFlow indent cs.length [] false cs

def escapedChar? (c : Char) : Option Char :=
  [('0', '\x00'), ('a', '\x07'), ('b', '\x08'), ('t', '\t'), ('\t', '\t'), ('n', '\n'),
    ('v', '\x0B'), ('f', '\x0C'), ('r', '\r'), ('e', '\x1B'), (' ', ' '), ('"', '"'), ('\\', '\\'),
    ('/', '/'), ('N', nextLine), ('_', '\xA0'), ('L', lineSeparator),
    ('P', paragraphSeparator)].lookup c

def escapeWidth? (c : Char) : Option Nat := [('x', 2), ('u', 4), ('U', 8)].lookup c

def isHexDigit (c : Char) : Bool := c.isDigit || ('a' ≤ c && c ≤ 'f') || ('A' ≤ c && c ≤ 'F')

def hexValue (c : Char) : Nat := if c.isDigit then c.toNat - 48 else c.toLower.toNat - 87

def hexNumber (cs : List Char) : Nat := cs.foldl (fun n c => 16 * n + hexValue c) 0

def quotedBreaks : Nat → List Char → Except Failure (List Char × List Char)
  | 0, cs => .ok ([], cs)
  | bound + 1, cs =>
    if atDocumentMark cs then .error .invalid
    else
      let rest := cs.dropWhile isBlank
      match takeBreak? rest with
      | none => .ok ([], rest)
      | some (c, rest) => (quotedBreaks bound rest).map fun (more, rest) => (c :: more, rest)

def readQuoted (isDouble : Bool) : Nat → List Char → Except Failure (List Char × List Char)
  | 0, _ => .error .invalid
  | _, [] => .error .invalid
  | bound + 1, c :: cs =>
    let quote := if isDouble then '"' else '\x27'
    let continueWith (text rest : List Char) : Except Failure (List Char × List Char) :=
      (readQuoted isDouble bound rest).map fun (more, rest) => (text ++ more, rest)
    if c = quote then
      match cs with
      | d :: rest => if !isDouble && d == quote then continueWith [quote] rest else .ok ([], cs)
      | [] => .ok ([], [])
    else if isDouble && c == '\\' then
      match cs with
      | [] => .error .invalid
      | d :: rest =>
        match escapedChar? d, escapeWidth? d with
        | some e, _ => continueWith [e] rest
        | none, some width =>
          let digits := rest.take width
          if digits.length = width ∧ digits.all isHexDigit then
            let n := hexNumber digits
            if n < 0x110000 then continueWith [Char.ofNat n] (rest.drop width)
            else .error (.noSuchCharacter n)
          else .error .invalid
        | none, none =>
          match takeBreak? cs with
          | none => .error .invalid
          | some (_, rest) =>
            match quotedBreaks rest.length rest with
            | .error e => .error e
            | .ok (text, rest) => continueWith text rest
    else if isBlank c || isBreak c then
      let blanks := (c :: cs).takeWhile isBlank
      let rest := (c :: cs).dropWhile isBlank
      match rest with
      | [] => .error .invalid
      | _ :: _ =>
        match takeBreak? rest with
        | none => continueWith blanks rest
        | some (first, rest) =>
          match quotedBreaks rest.length rest with
          | .error e => .error e
          | .ok (others, rest) => continueWith (folded first others) rest
    else continueWith [c] cs

inductive Chomping where
  | strip | clip | keep
  deriving DecidableEq, Repr

structure BlockHeader where
  chomping : Chomping
  increment : Option Nat
  deriving DecidableEq, Repr

def chomping? (c : Char) : Option Chomping := [('+', Chomping.keep), ('-', .strip)].lookup c

def increment? : List Char → Except Failure (Option Nat × List Char)
  | c :: cs =>
    if c = '0' then .error .invalid
    else if c.isDigit then .ok (some (c.toNat - 48), cs)
    else .ok (none, c :: cs)
  | [] => .ok (none, [])

def readBlockHeader (cs : List Char) : Except Failure (BlockHeader × List Char) := do
  match cs.head?.bind chomping? with
  | some chomping =>
    let (increment, rest) ← increment? (cs.drop 1)
    pure (⟨chomping, increment⟩, rest)
  | none =>
    let (increment, rest) ← increment? cs
    match increment, rest.head?.bind chomping? with
    | some n, some chomping => pure (⟨chomping, some n⟩, rest.drop 1)
    | increment, _ => pure (⟨.clip, increment⟩, rest)

def skipToLineEnd (cs : List Char) : Except Failure (List Char) :=
  let rest := cs.dropWhile (· == ' ')
  let rest := if rest.head? = some '#' then rest.dropWhile fun c => !isBreak c else rest
  if atLineEnd rest then .ok (((takeBreak? rest).map Prod.snd).getD rest) else .error .invalid

/-- The empty lines in front of a block, the widest column that spaces reach in them and in the
line after them, and the column of the rest. -/
def blockLead (column widest : Nat) : List Char → List Char × Nat × Nat × List Char
  | ' ' :: cs => blockLead (column + 1) (max widest (column + 1)) cs
  | '\r' :: '\n' :: cs =>
    let (breaks, more) := blockLead 0 widest cs
    ('\n' :: breaks, more)
  | c :: cs =>
    match takeBreak? [c] with
    | some (b, _) =>
      let (breaks, more) := blockLead 0 widest cs
      (b :: breaks, more)
    | none => ([], widest, column, c :: cs)
  | [] => ([], widest, column, [])

def blockBreaks (indent column : Nat) : List Char → List Char × Nat × List Char
  | '\r' :: '\n' :: cs =>
    let (breaks, more) := blockBreaks indent 0 cs
    ('\n' :: breaks, more)
  | c :: cs =>
    if c = ' ' then
      if column < indent then blockBreaks indent (column + 1) cs else ([], column, c :: cs)
    else
      match takeBreak? [c] with
      | some (b, _) =>
        let (breaks, more) := blockBreaks indent 0 cs
        (b :: breaks, more)
      | none => ([], column, c :: cs)
  | [] => ([], column, [])

/-- The lines of a block after some line ends that were passed. At the end stand the last line end
and the empty lines after it. -/
def blockLines (isFolded : Bool) (indent : Nat) :
    Nat → List Char → Nat → List Char → List Char × List Char × List Char × List Char
  | 0, breaks, _, cs => ([], [], breaks, cs)
  | bound + 1, breaks, column, cs =>
    if column ≠ indent ∨ cs.isEmpty then ([], [], breaks, cs)
    else
      let isText (cs : List Char) : Bool := !((cs.head?.map isBlank).getD false)
      let line := cs.takeWhile fun c => !isBreak c
      let rest := cs.dropWhile fun c => !isBreak c
      let (lineEnd, rest) := match takeBreak? rest with
        | some (c, rest) => ([c], rest)
        | none => ([], rest)
      let (later, column, rest) := blockBreaks indent 0 rest
      if column = indent ∧ !rest.isEmpty then
        let between :=
          if isFolded && lineEnd == ['\n'] && isText cs && isText rest then
            if later.isEmpty then [' '] else []
          else lineEnd
        let (text, tail) := blockLines isFolded indent bound later column rest
        (breaks ++ line ++ between ++ text, tail)
      else (breaks ++ line, lineEnd, later, rest)

def readBlock (isFolded : Bool) (indent : Int) (cs : List Char) :
    Except Failure (List Char × List Char) := do
  let (header, rest) ← readBlockHeader cs
  if !atSpace rest then .error .invalid
  else
    let rest ← skipToLineEnd rest
    let least := (max (indent + 1) 1).toNat
    let (breaks, width, column, rest) := match header.increment with
      | none =>
        let (breaks, widest, column, rest) := blockLead 0 0 rest
        (breaks, max least widest, column, rest)
      | some n =>
        let width := least + n - 1
        let (breaks, column, rest) := blockBreaks width 0 rest
        (breaks, width, column, rest)
    let (text, lineEnd, breaks, rest) := blockLines isFolded width rest.length breaks column rest
    let tail := match header.chomping with
      | .strip => []
      | .clip => lineEnd
      | .keep => lineEnd ++ breaks
    pure (text ++ tail, rest)

end Articulation.Yaml
