import Articulation.Yaml.Token
/-!
A stream as tokens. What is a key shows only at the colon after it, so each token that could begin
one is remembered along with its number among the tokens, and the marks of keys are put in their
places when all tokens are known.
-/
set_option autoImplicit false

namespace Articulation.Yaml

structure Position where
  index : Nat
  line : Nat
  column : Nat
  deriving DecidableEq, Repr

def Position.after (p : Position) : List Char → Position
  | [] => p
  | '\r' :: '\n' :: cs => (⟨p.index + 2, p.line + 1, 0⟩ : Position).after cs
  | c :: cs =>
    if isBreak c then (⟨p.index + 1, p.line + 1, 0⟩ : Position).after cs
    else if c = byteOrderMark then (⟨p.index + 1, p.line, p.column⟩ : Position).after cs
    else (⟨p.index + 1, p.line, p.column + 1⟩ : Position).after cs

structure PossibleKey where
  /-- The number of its first token. -/
  place : Nat
  position : Position
  /-- Whether nothing but a key may begin here. -/
  isRequired : Bool
  deriving DecidableEq, Repr

structure KeyMark where
  place : Nat
  opensMapping : Bool
  deriving DecidableEq, Repr

structure TokenStream where
  rest : List Char
  position : Position
  /-- The number of flow collections around the place. -/
  depth : Nat
  /-- The columns of the block collections around the place, the innermost first. -/
  columns : List Nat
  mayStartKey : Bool
  possibleKeys : List (Nat × PossibleKey)
  keys : List KeyMark
  tokens : Array Token

namespace TokenStream

def start (cs : List Char) : TokenStream := ⟨cs, ⟨0, 0, 0⟩, 0, [], true, [], [], #[]⟩

def column (s : TokenStream) : Nat := s.position.column

def inFlow (s : TokenStream) : Bool := s.depth != 0

def indent (s : TokenStream) : Int :=
  match s.columns with
  | [] => -1
  | column :: _ => column

def push (s : TokenStream) (t : Token) : TokenStream := { s with tokens := s.tokens.push t }

def moveTo (s : TokenStream) (rest : List Char) : TokenStream :=
  { s with
    rest := rest
    position := s.position.after (s.rest.take (s.rest.length - rest.length)) }

def dropKey (s : TokenStream) : Except Failure TokenStream :=
  match s.possibleKeys.lookup s.depth with
  | none => .ok s
  | some key =>
    if key.isRequired then .error .invalid
    else .ok { s with possibleKeys := s.possibleKeys.filter (·.1 != s.depth) }

def possibleKey (s : TokenStream) : PossibleKey :=
  ⟨s.tokens.size, s.position, !s.inFlow && s.indent == s.column⟩

def noteKey (s : TokenStream) : Except Failure TokenStream := do
  if s.mayStartKey then
    let s ← s.dropKey
    pure { s with possibleKeys := (s.depth, s.possibleKey) :: s.possibleKeys }
  else pure s

/-- A key stands on one line and is not longer than 1024 characters. -/
def isTooFar (p : Position) (key : PossibleKey) : Bool :=
  key.position.line != p.line || p.index - key.position.index > 1024

def dropStaleKeys (s : TokenStream) : Except Failure TokenStream :=
  let stale := s.possibleKeys.filter fun k => isTooFar s.position k.2
  if stale.any fun k => k.2.isRequired then .error .invalid
  else .ok { s with possibleKeys := s.possibleKeys.filter fun k => !isTooFar s.position k.2 }

def closeFrom (s : TokenStream) (column : Int) : TokenStream :=
  if s.inFlow then s
  else
    let isInside (c : Nat) : Bool := column < c
    let ended := s.columns.takeWhile isInside
    { s with
      columns := s.columns.dropWhile isInside
      tokens := s.tokens ++ ended.map fun _ => Token.blockEnd }

def openAt (s : TokenStream) (column : Nat) (t : Token) : TokenStream :=
  if s.indent < column then { s with columns := column :: s.columns }.push t else s

/-- The end of a gap that is made of spaces, comments and line ends, and whether a line end was
among them. -/
def skipGap (inComment passed : Bool) : List Char → Bool × List Char
  | [] => (passed, [])
  | c :: cs =>
    if isBreak c then skipGap false true cs
    else if inComment || c == ' ' then skipGap inComment passed cs
    else if c == '#' then skipGap true passed cs
    else (passed, c :: cs)

/-- Goes to the next token; a block may hold a key at the start of a line. -/
def toNext (s : TokenStream) : TokenStream :=
  let cs := match s.rest with
    | c :: cs => if s.position.index == 0 && c == byteOrderMark then cs else c :: cs
    | [] => []
  let (passed, rest) := skipGap false false cs
  let s := s.moveTo rest
  { s with mayStartKey := s.mayStartKey || (passed && !s.inFlow) }

def finish (s : TokenStream) : Except Failure TokenStream := do
  let s ← (s.closeFrom (-1)).dropKey
  pure (s.push .streamEnd)

def documentMark (s : TokenStream) (t : Token) (rest : List Char) : Except Failure TokenStream := do
  let s ← (s.closeFrom (-1)).dropKey
  pure ({ s with mayStartKey := false }.push t |>.moveTo rest)

def directive (s : TokenStream) (cs : List Char) : Except Failure TokenStream := do
  let s ← (s.closeFrom (-1)).dropKey
  let (d, rest) ← readDirective cs
  pure ({ s with mayStartKey := false }.push (.directive d) |>.moveTo rest)

def openFlow (s : TokenStream) (t : Token) (rest : List Char) : Except Failure TokenStream := do
  let s ← s.noteKey
  pure ({ s with depth := s.depth + 1, mayStartKey := true }.push t |>.moveTo rest)

def closeFlow (s : TokenStream) (t : Token) (rest : List Char) : Except Failure TokenStream := do
  let s ← s.dropKey
  pure ({ s with depth := s.depth - 1, mayStartKey := false }.push t |>.moveTo rest)

def comma (s : TokenStream) (rest : List Char) : Except Failure TokenStream := do
  let s ← s.dropKey
  pure ({ s with mayStartKey := true }.push .comma |>.moveTo rest)

def blockMark (s : TokenStream) (opening : Token) : Except Failure TokenStream :=
  if s.inFlow then .ok s
  else if s.mayStartKey then .ok (s.openAt s.column opening)
  else .error .invalid

def entry (s : TokenStream) (rest : List Char) : Except Failure TokenStream := do
  let s ← (← s.blockMark .blockSequenceStart).dropKey
  pure ({ s with mayStartKey := true }.push .entry |>.moveTo rest)

def key (s : TokenStream) (rest : List Char) : Except Failure TokenStream := do
  let s ← (← s.blockMark .blockMappingStart).dropKey
  pure ({ s with mayStartKey := !s.inFlow }.push .key |>.moveTo rest)

/-- The colon makes a key of what could be one. -/
def value (s : TokenStream) (rest : List Char) : Except Failure TokenStream := do
  match s.possibleKeys.lookup s.depth with
  | some k =>
    let column := k.position.column
    let opens := !s.inFlow && s.indent < column
    let s := { s with
      possibleKeys := s.possibleKeys.filter (·.1 != s.depth)
      keys := ⟨k.place, opens⟩ :: s.keys
      columns := if opens then column :: s.columns else s.columns
      mayStartKey := false }
    pure (s.push .value |>.moveTo rest)
  | none =>
    let s ← (← s.blockMark .blockMappingStart).dropKey
    pure ({ s with mayStartKey := !s.inFlow }.push .value |>.moveTo rest)

/-- A token that may begin a key, and after which no key can begin. -/
def part (s : TokenStream) (t : Token) (rest : List Char) : Except Failure TokenStream := do
  let s ← s.noteKey
  pure ({ s with mayStartKey := false }.push t |>.moveTo rest)

def block (s : TokenStream) (isFolded : Bool) (cs : List Char) : Except Failure TokenStream := do
  let s ← s.dropKey
  let (text, rest) ← readBlock isFolded s.indent cs
  pure ({ s with mayStartKey := true }.push (.scalar (String.ofList text) false) |>.moveTo rest)

def plain (s : TokenStream) : Except Failure TokenStream := do
  let s ← s.noteKey
  let p := readPlain s.inFlow (s.indent + 1) s.rest
  pure ({ s with mayStartKey := p.passedLine }.push (.scalar (String.ofList p.text) true)
    |>.moveTo p.rest)

def startsPlain (inFlow : Bool) (c : Char) (cs : List Char) : Bool :=
  !(isBlank c || isBreak c || "-?:,[]\x7b\x7d#&*!|>'\"%@`".toList.contains c) ||
    (!atGap cs && (c == '-' || (!inFlow && (c == '?' || c == ':'))))

def next (s : TokenStream) (c : Char) (cs : List Char) : Except Failure TokenStream := do
  let atLineStart := s.column == 0
  let isMark := s.inFlow || atGap cs
  if atLineStart && c == '%' then s.directive cs
  else if atLineStart && atMark '-' (c :: cs) then s.documentMark .documentStart (cs.drop 2)
  else if atLineStart && atMark '.' (c :: cs) then s.documentMark .documentEnd (cs.drop 2)
  else if c = '[' then s.openFlow .flowSequenceStart cs
  else if c = '\x7b' then s.openFlow .flowMappingStart cs
  else if c = ']' then s.closeFlow .flowSequenceEnd cs
  else if c = '\x7d' then s.closeFlow .flowMappingEnd cs
  else if c = ',' then s.comma cs
  else if c == '-' && atGap cs then s.entry cs
  else if c == '?' && isMark then s.key cs
  else if c == ':' && isMark then s.value cs
  else if c = '*' then
    let (name, rest) ← readAnchorName cs
    s.part (.alias name) rest
  else if c = '&' then
    let (name, rest) ← readAnchorName cs
    s.part (.anchor name) rest
  else if c = '!' then
    let (tag, rest) ← readTag cs
    s.part (.tag tag) rest
  else if (c == '|' || c == '>') && !s.inFlow then s.block (c == '>') cs
  else if c == '"' || c == '\x27' then
    let (text, rest) ← readQuoted (c == '"') cs.length cs
    s.part (.scalar (String.ofList text) false) rest
  else if startsPlain s.inFlow c cs then s.plain
  else .error .invalid

/-- What is certain as long as the next token is not known: the tokens in front of the first that
may still turn out to be a key. -/
def certain (s : TokenStream) : TokenStream :=
  match ((s.possibleKeys.filter fun k => !isTooFar s.position k.2).map fun k => k.2.place).min? with
  | some place => { s with tokens := s.tokens.take place }
  | none => s

def run : Nat → TokenStream → TokenStream × Option Failure
  | 0, s => (s, some .invalid)
  | bound + 1, s =>
    match s.toNext.dropStaleKeys with
    | .error e => (s.certain, some e)
    | .ok t =>
      let t := t.closeFrom t.column
      match t.rest with
      | [] =>
        match t.finish with
        | .error e => (s.certain, some e)
        | .ok t => (t, none)
      | c :: cs =>
        match t.next c cs with
        | .error e => (s.certain, some e)
        | .ok t => run bound t

def withKeys (keys : List KeyMark) : Nat → List Token → List Token
  | _, [] => []
  | n, t :: ts =>
    let marks := match keys.find? (·.place == n) with
      | some k => if k.opensMapping then [.blockMappingStart, .key] else [Token.key]
      | none => []
    marks ++ t :: withKeys keys (n + 1) ts

end TokenStream

def tokens (cs : List Char) : List Token × Option Failure :=
  if cs.all isStreamChar then
    let (s, failure) := (TokenStream.start cs).run (cs.length + 1)
    (TokenStream.withKeys s.keys 0 s.tokens.toList, failure)
  else ([], some .invalid)

end Articulation.Yaml
