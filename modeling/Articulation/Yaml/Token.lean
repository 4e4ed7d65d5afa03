import Articulation.Text.Digit
import Articulation.Text.Utf8
import Articulation.Yaml.Scalar
/-!
The tokens of a stream, and readers of those that are more than a mark and no scalar: the names of
anchors, tags and directives.
-/
set_option autoImplicit false

namespace Articulation.Yaml

structure TagMark where
  handle : Option String
  suffix : String
  deriving DecidableEq, Repr

inductive Directive where
  | version (major : Nat)
  | handle (name stem : String)
  | other
  deriving DecidableEq, Repr

/-- Blocks have no mark at their ends but their indentation; `blockSequenceStart`,
`blockMappingStart` and `blockEnd` stand for it. -/
inductive Token where
  | streamEnd
  | directive (d : Directive)
  | documentStart | documentEnd
  | blockSequenceStart | blockMappingStart | blockEnd
  | flowSequenceStart | flowSequenceEnd
  | flowMappingStart | flowMappingEnd
  | entry | comma | key | value
  | alias (name : String)
  | anchor (name : String)
  | tag (t : TagMark)
  | scalar (text : String) (isPlain : Bool)
  deriving DecidableEq, Repr

def readName (cs : List Char) : Except Failure (List Char × List Char) :=
  let name := cs.takeWhile isNameChar
  if name.isEmpty then .error .invalid else .ok (name, cs.dropWhile isNameChar)

def readAnchorName (cs : List Char) : Except Failure (String × List Char) := do
  let (name, rest) ← readName cs
  if atGap rest || rest.head?.any fun c => "?:,]\x7d%@`".toList.contains c then
    pure (String.ofList name, rest)
  else .error .invalid

def isUriChar (c : Char) : Bool := c.isAlphanum || "-;/?:@&=+$,_.!~*\x27()[]%".toList.contains c

def uriText (escaped : List UInt8) : Except Failure (List Char) :=
  match Text.decodeUtf8 escaped with
  | .ok cs => .ok cs
  | .error _ => .error .invalid

/-- A row of escaped bytes, those read so far first, must be the bytes of a text. -/
def uriFrom (escaped : List UInt8) : List Char → Except Failure (List Char × List Char)
  | [] => (uriText escaped).map fun text => (text, [])
  | '%' :: a :: b :: cs =>
    if isHexDigit a && isHexDigit b then
      uriFrom (escaped ++ [UInt8.ofNat (hexNumber [a, b])]) cs
    else .error .invalid
  | c :: cs => do
    let text ← uriText escaped
    if c = '%' then .error .invalid
    else if isUriChar c then
      let (more, rest) ← uriFrom [] cs
      pure (text ++ c :: more, rest)
    else pure (text, c :: cs)

def readUri (cs : List Char) : Except Failure (String × List Char) := do
  let (uri, rest) ← uriFrom [] cs
  if uri.isEmpty then .error .invalid else pure (String.ofList uri, rest)

/-- A handle is a lone mark or a name, perhaps empty, between two marks. -/
def readHandle : List Char → Except Failure (String × List Char)
  | '!' :: ' ' :: cs => .ok ("!", ' ' :: cs)
  | '!' :: cs =>
    match cs.dropWhile isNameChar with
    | '!' :: rest => .ok (String.ofList ('!' :: cs.takeWhile isNameChar ++ ['!']), rest)
    | _ => .error .invalid
  | _ => .error .invalid

/-- A tag after its mark. A second mark in the same word belongs to the handle. -/
def readTag (cs : List Char) : Except Failure (TagMark × List Char) := do
  let (tag, rest) ← match cs with
    | '<' :: cs => do
      let (suffix, rest) ← readUri cs
      match rest with
      | '>' :: rest => pure (⟨none, suffix⟩, rest)
      | _ => .error .invalid
    | cs =>
      if atGap cs then pure (⟨none, "!"⟩, cs)
      else do
        let word := cs.takeWhile fun c => c != ' ' && !isBreak c
        let (handle, rest) ← if word.contains '!' then readHandle ('!' :: cs) else pure ("!", cs)
        let (suffix, rest) ← readUri rest
        pure (⟨some handle, suffix⟩, rest)
  if atSpace rest then pure (tag, rest) else .error .invalid

def skipSpaces (cs : List Char) : List Char := cs.dropWhile (· == ' ')

def readNumber (cs : List Char) : Except Failure (Nat × List Char) :=
  let ds := cs.takeWhile Char.isDigit
  if ds.isEmpty then .error .invalid
  else if mostDigits < ds.length then .error (.longInteger ds.length)
  else .ok (Text.natOfDigits (ds.map fun c => c.toNat - 48), cs.dropWhile Char.isDigit)

def readVersion (cs : List Char) : Except Failure (Directive × List Char) := do
  let (major, rest) ← readNumber (skipSpaces cs)
  match rest with
  | '.' :: rest =>
    let (_, rest) ← readNumber rest
    if atSpace rest then pure (.version major, rest) else .error .invalid
  | _ => .error .invalid

def readHandleMeaning (cs : List Char) : Except Failure (Directive × List Char) := do
  let (name, rest) ← readHandle (skipSpaces cs)
  match rest with
  | ' ' :: _ =>
    let (stem, rest) ← readUri (skipSpaces rest)
    if atSpace rest then pure (.handle name stem, rest) else .error .invalid
  | _ => .error .invalid

def readDirective (cs : List Char) : Except Failure (Directive × List Char) := do
  let (name, rest) ← readName cs
  if !atSpace rest then .error .invalid
  else
    let (directive, rest) ← match String.ofList name with
      | "YAML" => readVersion rest
      | "TAG" => readHandleMeaning rest
      | _ => pure (.other, rest.dropWhile fun c => !isBreak c)
    pure (directive, ← skipToLineEnd rest)

end Articulation.Yaml
