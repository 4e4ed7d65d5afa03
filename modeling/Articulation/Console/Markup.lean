import Articulation.Console.Emoji
/-!
Texts with style tags in brackets, of which only the texts are shown. A closing tag must close one
that is open.
-/
set_option autoImplicit false

namespace Articulation.Console

inductive MarkupError where
  | nothingToClose
  deriving DecidableEq, Repr

inductive Piece where
  | text (cs : List Char)
  | tag (name : List Char)
  deriving DecidableEq, Repr

def startsTag (c : Char) : Bool := ('a' ≤ c && c ≤ 'z') || c == '#' || c == '/' || c == '@'

def untilBracket? : List Char → Option (List Char)
  | [] => none
  | c :: cs =>
    if c = ']' then some []
    else if c = '[' then none
    else (untilBracket? cs).map (c :: ·)

def tagBody? : List Char → Option (List Char)
  | '[' :: c :: cs => if startsTag c then (untilBracket? cs).map (c :: ·) else none
  | _ => none

/-- Backslashes in front of a tag stand for half as many; one that is left over makes a text of the
tag. -/
def tagPieces (slashes : Nat) (body : List Char) : List Piece :=
  let shown := List.replicate (slashes / 2) '\\'
  let before := if shown.isEmpty then [] else [Piece.text shown]
  if slashes % 2 = 1 then before ++ [.text ('[' :: body ++ [']'])]
  else before ++ [.tag (body.takeWhile (· != '='))]

def textPiece (reversed : List Char) : List Piece :=
  if reversed.isEmpty then [] else [.text reversed.reverse]

/-- The pieces after some characters, which are given in reverse; so many characters in front
belong to a tag that is dealt with. -/
def piecesFrom (skipped : Nat) (reversed : List Char) : List Char → List Piece
  | [] => textPiece reversed
  | c :: cs =>
    if 0 < skipped then piecesFrom (skipped - 1) reversed cs
    else
      let slashes := ((c :: cs).takeWhile (· == '\\')).length
      match tagBody? ((c :: cs).drop slashes) with
      | some body =>
        textPiece reversed ++ tagPieces slashes body ++ piecesFrom (slashes + body.length + 1) [] cs
      | none => piecesFrom 0 (c :: reversed) cs

def pieces (cs : List Char) : List Piece := piecesFrom 0 [] cs

def attributes : List (String × List String) := [
  ("bold", ["bold", "b"]), ("dim", ["dim", "d"]), ("italic", ["italic", "i"]),
  ("underline", ["underline", "u"]), ("blink", ["blink"]), ("blink2", ["blink2"]),
  ("reverse", ["reverse", "r"]), ("conceal", ["conceal", "c"]), ("strike", ["strike", "s"]),
  ("underline2", ["underline2", "uu"]), ("frame", ["frame"]), ("encircle", ["encircle"]),
  ("overline", ["overline", "o"])]

def attribute? (word : String) : Option String :=
  (attributes.find? fun a => a.2.contains word).map Prod.fst

structure StyleName where
  set : List (String × Bool)
  colour : Option String
  background : Option String
  link : Option String
  deriving DecidableEq, Repr

def StyleName.read? (s : StyleName) : List String → Option StyleName
  | [] => some s
  | word :: more =>
    match String.toLower word, more with
    | "on", colour :: more => StyleName.read? { s with background := some colour } more
    | "not", word :: more =>
      match attribute? word with
      | some a => StyleName.read? { s with set := (a, false) :: s.set } more
      | none => none
    | "link", address :: more => StyleName.read? { s with link := some address } more
    | "on", [] | "not", [] | "link", [] => none
    | word, more =>
      match attribute? word with
      | some a => StyleName.read? { s with set := (a, true) :: s.set } more
      | none =>
        if s.colour.isNone then StyleName.read? { s with colour := some word } more else none

def StyleName.words (s : StyleName) : List String :=
  attributes.flatMap (fun a => match s.set.lookup a.1 with
    | some true => [a.1]
    | some false => ["not", a.1]
    | none => []) ++ s.colour.toList ++
    (s.background.map fun c => ["on", c]).getD [] ++ (s.link.map fun l => ["link", l]).getD []

/-- Names of styles with the same effect have one normal form. -/
def normalStyle (name : List Char) : String :=
  match StyleName.read? ⟨[], none, none, none⟩ ((Text.words name).map String.ofList) with
  | some s => String.intercalate " " s.words
  | none => String.ofList (Text.lower (Text.trim name))

def isHidden (c : Char) : Bool := [7, 8, 11, 12, 13].contains c.toNat

/-- A backslash in front of a bracket is left out also where there is no tag. -/
def bareBrackets : List Char → List Char
  | '\\' :: '[' :: cs => '[' :: bareBrackets cs
  | c :: cs => c :: bareBrackets cs
  | [] => []

def textOf (styles : List String) : List Piece → Except MarkupError (List Char)
  | [] => .ok []
  | .text cs :: ps => do return withEmoji (bareBrackets cs) ++ (← textOf styles ps)
  | .tag ('/' :: name) :: ps =>
    if (Text.trim name).isEmpty then
      match styles with
      | [] => .error .nothingToClose
      | _ :: styles => textOf styles ps
    else
      let style := normalStyle (Text.trim name)
      if styles.contains style then textOf (styles.erase style) ps else .error .nothingToClose
  | .tag name :: ps => textOf (normalStyle name :: styles) ps

def shown (s : String) : Except MarkupError (List Char) :=
  let cs := s.toList
  (if cs.contains '[' then textOf [] (pieces cs) else .ok (withEmoji cs)).map fun cs =>
    cs.filter fun c => !isHidden c

example : (shown "[b]a[/bold] \\[x] [1]").toOption = some "a [x] [1]".toList ∧
    shown "a[/b]" matches .error _ := by decide +kernel

end Articulation.Console
