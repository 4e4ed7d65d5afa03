import Articulation.Console.Columns
import Articulation.Text.Blank
/-!
Texts in lines of a given width. Lines break in front of words; blanks stay at the end of a line as
far as they fit.
-/
set_option autoImplicit false

namespace Articulation.Console

/-- What becomes of a word that is wider than a line: it goes on in further lines, or it is cut off
with an ellipsis. -/
inductive Overflow where
  | fold | ellipsis
  deriving DecidableEq, Repr

inductive Alignment where
  | none | left | centre | right
  deriving DecidableEq, Repr

def blanks (n : Nat) : List Char := List.replicate n ' '

def padded (width : Nat) (cs : List Char) : List Char := cs ++ blanks (width - columns cs)

def fitting (width : Nat) : List Char → List Char
  | [] => []
  | c :: cs => if columnsOf c ≤ width then c :: fitting (width - columnsOf c) cs else []

/-- A text cut to a width; half of a wide character is a blank. -/
def cropped (width : Nat) (cs : List Char) : List Char :=
  if columns cs ≤ width then padded width cs else padded width (fitting width cs)

def truncated (width : Nat) (overflow : Overflow) (cs : List Char) : List Char :=
  if columns cs ≤ width then cs
  else match overflow with
    | .fold => cropped width cs
    | .ellipsis => (if width ≤ 1 then [] else cropped (width - 1) cs) ++ ['…']

/-- Words with the blanks after them; blanks before the first word belong to it. The characters of
the current word are given in reverse. -/
def spacedWords (word : List Char) (hasText afterBlank : Bool) : List Char → List (List Char)
  | [] => if word.isEmpty then [] else [word.reverse]
  | c :: cs =>
    if Text.isBlank c then spacedWords (c :: word) hasText true cs
    else if hasText && afterBlank then word.reverse :: spacedWords [c] true false cs
    else spacedWords (c :: word) true false cs

def chopped (width : Nat) (piece : List Char) (size : Nat) : List Char → List (List Char)
  | [] => [piece.reverse]
  | c :: cs =>
    if width < size + columnsOf c then piece.reverse :: chopped width [c] (columnsOf c) cs
    else chopped width (c :: piece) (size + columnsOf c) cs

def withoutEnd (p : Char → Bool) (cs : List Char) : List Char := (cs.reverse.dropWhile p).reverse

/-- The lines of some words after the line that is begun. Blanks at the end of a word need not
fit. -/
def filled (width : Nat) (overflow : Overflow) (line : List Char) (size : Nat) :
    List (List Char) → List (List Char)
  | [] => [line]
  | w :: ws =>
    let wordSize := columns (withoutEnd Text.isBlank w)
    if size + wordSize ≤ width then filled width overflow (line ++ w) (size + columns w) ws
    else if wordSize ≤ width then line :: filled width overflow w (columns w) ws
    else
      let before := if line.isEmpty then [] else [line]
      match overflow with
      | .fold =>
        let pieces := chopped width [] 0 w
        let last := pieces.getLast?.getD []
        before ++ pieces.dropLast ++ filled width overflow last (columns last) ws
      | .ellipsis => before ++ filled width overflow w (columns w) ws

def withoutExcess (width : Nat) (line : List Char) : List Char :=
  let count := (line.reverse.takeWhile Text.isBlank).length
  line.take (line.length - min count (line.length - width))

def aligned (width : Nat) (overflow : Overflow) (a : Alignment) (line : List Char) : List Char :=
  let bare := truncated width overflow (withoutEnd Text.isBlank line)
  match a with
  | .none => truncated width overflow line
  | .left => padded width (truncated width overflow line)
  | .centre => padded width (blanks ((width - columns bare) / 2) ++ bare)
  | .right => blanks (width - columns bare) ++ bare

/-- Tabs lead to the next of the columns that are multiples of eight. -/
def withoutTabs (column : Nat) : List Char → List Char
  | [] => []
  | '\t' :: cs =>
    let width := 8 - column % 8
    blanks width ++ withoutTabs (column + width) cs
  | c :: cs => c :: withoutTabs (column + columnsOf c) cs

def linesOf : List Char → List (List Char)
  | [] => [[]]
  | c :: cs =>
    if c = '\n' then [] :: linesOf cs
    else match linesOf cs with
      | l :: ls => (c :: l) :: ls
      | [] => [[c]]

def wrapped (width : Nat) (overflow : Overflow) (mayBreak : Bool) (a : Alignment)
    (cs : List Char) : List (List Char) :=
  (linesOf cs).flatMap fun line =>
    let line := withoutTabs 0 line
    let parts :=
      if mayBreak then filled width overflow [] 0 (spacedWords [] false false line) else [line]
    parts.map fun part => aligned width overflow a (withoutExcess width part)

example : wrapped 7 .fold true .none "one two threefour".toList =
    ["one two".toList, "threefo".toList, "ur".toList] := by decide +kernel

end Articulation.Console
