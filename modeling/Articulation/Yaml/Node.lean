import Articulation.Yaml.Tag
import Articulation.Yaml.TokenStream
/-!
A document as nodes. An alias stands for a copy of the node that it names, if that node is
complete.
-/
set_option autoImplicit false

namespace Articulation.Yaml

inductive Node where
  | scalar (tag : Tag) (text : String)
  | sequence (tag : Tag) (items : List Node)
  | mapping (tag : Tag) (pairs : List (Node × Node))
  /-- A collection around the node, named by an alias. -/
  | enclosing
  deriving Repr

/-- What is still to be read, and the names that are known. -/
structure Reading where
  tokens : List Token
  /-- Why there are no more tokens after the last one. -/
  failure : Failure
  handles : List (String × String)
  anchors : List (String × Node)

abbrev NodeReader := StateT Reading (Except Failure)

namespace NodeReader

def invalid {α : Type} : NodeReader α := throw .invalid

def peek : NodeReader Token := do
  let r ← get
  match r.tokens with
  | t :: _ => pure t
  | [] => throw r.failure

def skip : NodeReader Unit := modify fun r => { r with tokens := r.tokens.drop 1 }

def isNext (ts : List Token) : NodeReader Bool := do pure (ts.contains (← peek))

def expect (t : Token) : NodeReader Unit := do
  if (← peek) = t then skip else invalid

def uri (t : TagMark) : NodeReader String := do
  match t.handle with
  | none => pure t.suffix
  | some handle =>
    match (← get).handles.lookup handle with
    | some stem => pure (stem ++ t.suffix)
    | none => invalid

def anchor? : NodeReader (Option String) := do
  match ← peek with
  | .anchor name => skip; pure (some name)
  | _ => pure none

def tag? : NodeReader (Option TagMark) := do
  match ← peek with
  | .tag t => skip; pure (some t)
  | _ => pure none

def marks : NodeReader (Option String × Option TagMark) := do
  match ← tag? with
  | some tag => pure (← anchor?, some tag)
  | none => do
    let anchor ← anchor?
    pure (anchor, ← tag?)

def properties : NodeReader (Option String × Option String) := do
  match ← marks with
  | (anchor, some tag) => pure (anchor, some (← uri tag))
  | (anchor, none) => pure (anchor, none)

/-- A lone mark as a tag says no more than no tag. -/
def isSilent (tag : Option String) : Bool := tag.all (· == "!")

def collectionTag (default : Tag) (tag : Option String) : Tag :=
  if isSilent tag then default else (tag.map Tag.ofName).getD default

/-- The text decides for a plain scalar without a tag and for any scalar with a lone mark. -/
def scalarTag (text : String) (isPlain : Bool) (tag : Option String) : Tag :=
  match tag with
  | none => if isPlain then .ofPlain text.toList else .text
  | some tag => if tag = "!" then .ofPlain text.toList else .ofName tag

def empty : Node := .scalar .null ""

def nameNode (anchor : Option String) (n : Node) : NodeReader Unit :=
  match anchor with
  | some name => modify fun r => { r with anchors := (name, n) :: r.anchors }
  | none => pure ()

def isTaken (anchor : Option String) : NodeReader Bool := do
  match anchor with
  | some name => pure ((← get).anchors.lookup name).isSome
  | none => pure false

/-- Reads the inside of a collection, in which its anchor names what is not complete. -/
def collection (anchor : Option String) (inside : NodeReader Node) : NodeReader Node := do
  nameNode anchor .enclosing
  let n ← inside
  nameNode anchor n
  pure n

inductive Place where
  | flow
  | block
  /-- The entries of a sequence may stand here without further indentation. -/
  | blockOrEntries
  deriving DecidableEq, Repr

mutual

def node (place : Place) : Nat → NodeReader Node
  | 0 => invalid
  | bound + 1 => do
    match ← peek with
    | .alias name =>
      skip
      match (← get).anchors.lookup name with
      | some n => pure n
      | none => invalid
    | _ =>
      let (anchor, tag) ← properties
      let next ← peek
      if ← isTaken anchor then invalid
      else match next with
        | .scalar text isPlain =>
          skip
          let n := Node.scalar (scalarTag text isPlain tag) text
          nameNode anchor n
          pure n
        | .flowSequenceStart =>
          skip
          collection anchor do
            return .sequence (collectionTag .sequence tag) (← flowItems true bound)
        | .flowMappingStart =>
          skip
          collection anchor do
            return .mapping (collectionTag .mapping tag) (← flowPairs true bound)
        | .blockSequenceStart =>
          if place = .flow then invalid
          else
            skip
            collection anchor do
              let items ← entries [.entry, .blockEnd] bound
              expect .blockEnd
              pure (.sequence (collectionTag .sequence tag) items)
        | .blockMappingStart =>
          if place = .flow then invalid
          else
            skip
            collection anchor do
              let pairs ← blockPairs bound
              expect .blockEnd
              pure (.mapping (collectionTag .mapping tag) pairs)
        | t =>
          if place = .blockOrEntries ∧ t = .entry then
            collection anchor do
              let items ← entries [.entry, .key, .value, .blockEnd] bound
              pure (.sequence (collectionTag .sequence tag) items)
          else if anchor.isSome || tag.isSome then
            let n := Node.scalar (scalarTag "" true tag) ""
            nameNode anchor n
            pure n
          else invalid

def nodeOrEmpty (place : Place) (ends : List Token) : Nat → NodeReader Node
  | 0 => invalid
  | bound + 1 => do if ← isNext ends then pure empty else node place bound

def entries (ends : List Token) : Nat → NodeReader (List Node)
  | 0 => invalid
  | bound + 1 => do
    if (← peek) = .entry then
      skip
      let n ← nodeOrEmpty .block ends bound
      return n :: (← entries ends bound)
    else pure []

def blockPairs : Nat → NodeReader (List (Node × Node))
  | 0 => invalid
  | bound + 1 => do
    if (← peek) = .key then
      skip
      let key ← nodeOrEmpty .blockOrEntries [.key, .value, .blockEnd] bound
      let value ← valueAfter .blockOrEntries [.key, .value, .blockEnd] bound
      return (key, value) :: (← blockPairs bound)
    else pure []

def valueAfter (place : Place) (ends : List Token) : Nat → NodeReader Node
  | 0 => invalid
  | bound + 1 => do
    if (← peek) = .value then
      skip
      nodeOrEmpty place ends bound
    else pure empty

/-- Items up to the closing bracket. A key among them makes a mapping of one pair. -/
def flowItems (isFirst : Bool) : Nat → NodeReader (List Node)
  | 0 => invalid
  | bound + 1 => do
    if (← peek) = .flowSequenceEnd then
      skip
      pure []
    else
      if !isFirst then expect .comma
      match ← peek with
      | .key =>
        skip
        let key ← nodeOrEmpty .flow [.value, .comma, .flowSequenceEnd] bound
        let value ← valueAfter .flow [.comma, .flowSequenceEnd] bound
        return .mapping .mapping [(key, value)] :: (← flowItems false bound)
      | .flowSequenceEnd =>
        skip
        pure []
      | _ =>
        let n ← node .flow bound
        return n :: (← flowItems false bound)

/-- Pairs up to the closing brace. A node without a key's mark is a key without a value. -/
def flowPairs (isFirst : Bool) : Nat → NodeReader (List (Node × Node))
  | 0 => invalid
  | bound + 1 => do
    if (← peek) = .flowMappingEnd then
      skip
      pure []
    else
      if !isFirst then expect .comma
      match ← peek with
      | .key =>
        skip
        let key ← nodeOrEmpty .flow [.value, .comma, .flowMappingEnd] bound
        let value ← valueAfter .flow [.comma, .flowMappingEnd] bound
        return (key, value) :: (← flowPairs false bound)
      | .flowMappingEnd =>
        skip
        pure []
      | _ =>
        let n ← node .flow bound
        return (n, empty) :: (← flowPairs false bound)

end

def isHandle (handle : String) : Directive → Bool
  | .handle name _ => name == handle
  | _ => false

/-- Directives must agree with each other: one version, whose major part is one, and one meaning
for a handle. -/
def checkDirectives : List Directive → NodeReader Unit
  | [] => pure ()
  | d :: ds => do
    match d with
    | .version major =>
      if major ≠ 1 ∨ ds.any fun d => d matches .version _ then invalid
    | .handle name _ => if ds.any (isHandle name) then invalid
    | .other => pure ()
    checkDirectives ds

def directives : List Token → List Directive
  | .directive d :: ts => d :: directives ts
  | _ => []

def standardHandles : List (String × String) := [("!", "!"), ("!!", Tag.standardStem)]

def declared : List Directive → List (String × String)
  | [] => []
  | .handle name stem :: ds => (name, stem) :: declared ds
  | _ :: ds => declared ds

def content : NodeReader Node := do
  let bound := 2 * (← get).tokens.length + 2
  match ← peek with
  | .directive _ | .documentStart | .documentEnd | .streamEnd => pure empty
  | _ => node .block bound

def document : NodeReader (Option Node) := do
  let bound := 2 * (← get).tokens.length + 2
  match ← peek with
  | .streamEnd => pure none
  | .directive _ | .documentStart => do
    let ds := directives (← get).tokens
    checkDirectives ds
    modify fun r => { r with
      tokens := r.tokens.drop ds.length
      handles := declared ds ++ standardHandles }
    expect .documentStart
    return some (← content)
  | _ => return some (← node .block bound)

def stream : NodeReader (Option Node) := do
  let n ← document
  modify fun r => { r with tokens := r.tokens.dropWhile (· == .documentEnd) }
  expect .streamEnd
  pure n

end NodeReader

def readNode? (cs : List Char) : Except Failure (Option Node) :=
  let (ts, failure) := tokens cs
  match NodeReader.stream.run ⟨ts, failure.getD .invalid, NodeReader.standardHandles, []⟩ with
  | .ok (n, _) => .ok n
  | .error e => .error e

end Articulation.Yaml
