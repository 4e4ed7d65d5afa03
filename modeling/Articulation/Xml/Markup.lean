import Articulation.Xml.Character
import Articulation.Xml.SyntaxError
/-!
The lexical units of markup. A text that does not fit is refused at its first wrong character, or
at the start of the unit if the text ends inside it.
-/
set_option autoImplicit false

namespace Articulation.Xml

structure Fault where
  reason : Reason
  rest : List Char
  deriving DecidableEq, Repr

/-- A fault found in a copy of the text from `start` on. -/
def Fault.within (start copy : List Char) (f : Fault) : Fault :=
  ⟨f.reason, start.drop (copy.length - f.rest.length)⟩

/-- How the reading of one unit stops short. A reader that succeeds gives the unit and the text after
it. -/
inductive Stop where
  | incomplete
  | invalid (rest : List Char)
  deriving DecidableEq, Repr

def Stop.fault (start : List Char) : Stop → Fault
  | incomplete => ⟨.unclosedToken, start⟩
  | invalid rest => ⟨.invalidToken, rest⟩

structure QualifiedName where
  qualifier : Option String
  base : String
  deriving DecidableEq, Repr

def QualifiedName.text (n : QualifiedName) : String :=
  match n.qualifier with
  | some q => q ++ ":" ++ n.base
  | none => n.base

def skipSpace (cs : List Char) : List Char := cs.dropWhile isSpace

def nameChars (cs : List Char) : List Char × List Char :=
  (cs.takeWhile isNameChar, cs.dropWhile isNameChar)

def readName (cs : List Char) : Except Stop (String × List Char) :=
  match cs with
  | [] => .error .incomplete
  | c :: _ =>
    if isNameStart c then
      let (name, rest) := nameChars cs
      .ok (String.ofList name, rest)
    else .error (.invalid cs)

def readQualifiedName (cs : List Char) : Except Stop (QualifiedName × List Char) := do
  let (first, rest) ← readName cs
  match rest with
  | ':' :: rest => do
    let (second, rest) ← readName rest
    pure (⟨some first, second⟩, rest)
  | rest => pure (⟨none, first⟩, rest)

inductive Reference where
  | entity (name : String)
  | character (number : Nat)
  deriving DecidableEq, Repr

def semicolon {α : Type} (a : α) : List Char → Except Stop (α × List Char)
  | [] => .error .incomplete
  | ';' :: rest => .ok (a, rest)
  | rest => .error (.invalid rest)

def isHexDigit (c : Char) : Bool := c.isDigit || ('a' ≤ c && c ≤ 'f') || ('A' ≤ c && c ≤ 'F')

def hexValue (c : Char) : Nat := if c.isDigit then c.toNat - 48 else c.toLower.toNat - 87

def numberIn (base : Nat) (ds : List Char) : Nat := ds.foldl (fun n c => base * n + hexValue c) 0

def readNumber (base : Nat) (isDigit : Char → Bool) (cs : List Char) : Except Stop (Reference × List Char) :=
  match cs with
  | [] => .error .incomplete
  | c :: _ =>
    if isDigit c then
      semicolon (.character (numberIn base (cs.takeWhile isDigit))) (cs.dropWhile isDigit)
    else .error (.invalid cs)

def readReference : List Char → Except Stop (Reference × List Char)
  | '#' :: 'x' :: cs => readNumber 16 isHexDigit cs
  | '#' :: cs => readNumber 10 Char.isDigit cs
  | cs => do
    let (name, rest) ← readName cs
    semicolon (.entity name) rest

def readValue (quote : Char) : List Char → Except Stop (List Char × List Char)
  | [] => .error .incomplete
  | c :: cs =>
    if c = quote then .ok ([], cs)
    else if c = '<' ∨ !isDocumentChar c then .error (.invalid (c :: cs))
    else do
      if c = '&' then let _ ← readReference cs
      let (value, rest) ← readValue quote cs
      pure (c :: value, rest)

/-- An attribute as it is written, and the text from its name and from its value on. -/
structure RawAttribute where
  name : QualifiedName
  value : List Char
  start : List Char
  valueStart : List Char
  deriving Repr

def readAttribute (cs : List Char) : Except Stop (RawAttribute × List Char) := do
  let (name, rest) ← readQualifiedName cs
  match skipSpace rest with
  | [] => .error .incomplete
  | '=' :: rest =>
    match skipSpace rest with
    | [] => .error .incomplete
    | c :: rest =>
      if c = '"' ∨ c = '\x27' then do
        let (value, after) ← readValue c rest
        pure (⟨name, value, cs, rest⟩, after)
      else .error (.invalid (c :: rest))
  | rest => .error (.invalid rest)

structure StartTag where
  name : QualifiedName
  attributes : List RawAttribute
  isEmpty : Bool
  deriving Repr

def readAttributes (attributes : List RawAttribute) (cs : List Char) :
    Except Stop ((List RawAttribute × Bool) × List Char) :=
  match cs with
  | [] => .error .incomplete
  | '>' :: rest => .ok ((attributes.reverse, false), rest)
  | '/' :: [] => .error .incomplete
  | '/' :: '>' :: rest => .ok ((attributes.reverse, true), rest)
  | '/' :: rest => .error (.invalid rest)
  | c :: rest =>
    if isSpace c then
      match skipSpace rest with
      | [] => .error .incomplete
      | d :: more =>
        if d = '>' ∨ d = '/' then
          if more.length < rest.length then readAttributes attributes (d :: more)
          else .error (.invalid cs)
        else
          match readAttribute (d :: more) with
          | .error stop => .error stop
          | .ok (a, after) =>
            if after.length ≤ rest.length then readAttributes (a :: attributes) after
            else .error (.invalid cs)
    else .error (.invalid cs)
termination_by cs.length

def readStartTag (cs : List Char) : Except Stop (StartTag × List Char) := do
  let (name, rest) ← readQualifiedName cs
  let ((attributes, isEmpty), rest) ← readAttributes [] rest
  pure (⟨name, attributes, isEmpty⟩, rest)

def readEndTag (cs : List Char) : Except Stop (String × List Char) :=
  match cs with
  | [] => .error .incomplete
  | c :: _ =>
    if isNameStart c then
      let isTagChar (c : Char) : Bool := isNameChar c || c == ':'
      match skipSpace (cs.dropWhile isTagChar) with
      | [] => .error .incomplete
      | '>' :: rest => .ok (String.ofList (cs.takeWhile isTagChar), rest)
      | rest => .error (.invalid rest)
    else .error (.invalid cs)

def skipCommentText : List Char → Except Stop (Unit × List Char)
  | [] | ['-'] | ['-', '-'] => .error .incomplete
  | '-' :: '-' :: '>' :: rest => .ok ((), rest)
  | '-' :: '-' :: rest => .error (.invalid rest)
  | c :: rest => if isDocumentChar c then skipCommentText rest else .error (.invalid (c :: rest))

def skipComment : List Char → Except Stop (Unit × List Char)
  | [] => .error .incomplete
  | '-' :: rest => skipCommentText rest
  | rest => .error (.invalid rest)

inductive Instruction where
  | processing
  | declaration (body : List Char)
  deriving DecidableEq, Repr

def readInstructionText : List Char → Except Stop (List Char × List Char)
  | [] | ['?'] => .error .incomplete
  | '?' :: '>' :: rest => .ok ([], rest)
  | c :: rest =>
    if isDocumentChar c then do
      let (text, rest) ← readInstructionText rest
      pure (c :: text, rest)
    else .error (.invalid (c :: rest))

/-- An instruction from its target on. The target `xml`, in small letters only, is that of the
declaration. -/
def readInstruction (cs : List Char) : Except Stop (Instruction × List Char) := do
  let (target, rest) ← readName cs
  let isReserved := target.toLower == "xml"
  let instruction (body : List Char) : Instruction :=
    if isReserved then .declaration body else .processing
  match rest with
  | [] => .error .incomplete
  | c :: after =>
    if isReserved && target != "xml" then .error (.invalid rest)
    else if isSpace c then do
      let (body, rest) ← readInstructionText after
      pure (instruction (c :: body), rest)
    else if c = '?' then
      match after with
      | [] => .error .incomplete
      | '>' :: rest => pure (instruction [], rest)
      | rest => .error (.invalid rest)
    else .error (.invalid rest)

/-- The rest of the mark that opens character data: too short a text may still become it. -/
def readCharacterDataMark (cs : List Char) : Except Stop (Unit × List Char) :=
  let mark := "CDATA[".toList
  if (cs.take 6).foldl (fun n c => n + c.utf8Size) 0 < 6 then .error .incomplete
  else
    let rec go : List Char → List Char → Except Stop (Unit × List Char)
      | m :: ms, c :: cs => if m = c then go ms cs else .error (.invalid (c :: cs))
      | [], cs => .ok ((), cs)
      | _, [] => .error .incomplete
    go mark cs

def skipCharacterData : List Char → Except Fault (List Char)
  | [] => .error ⟨.unclosedCharacterData, []⟩
  | [']'] => .error ⟨.unclosedCharacterData, [']']⟩
  | [']', ']'] => .error ⟨.unclosedCharacterData, [']', ']']⟩
  | ']' :: ']' :: '>' :: rest => .ok rest
  | c :: rest =>
    if isDocumentChar c then skipCharacterData rest else .error ⟨.invalidToken, c :: rest⟩

def skipText : List Char → Except Fault (List Char)
  | [] => .ok []
  | ']' :: ']' :: '>' :: rest => .error ⟨.invalidToken, '>' :: rest⟩
  | c :: rest =>
    if c = '<' ∨ c = '&' then .ok (c :: rest)
    else if isDocumentChar c then skipText rest
    else .error ⟨.invalidToken, c :: rest⟩

end Articulation.Xml
