import Articulation.Console.Markup
import Articulation.Console.Wrap
/-!
Tables and panels drawn with lines. Columns are as wide as their widest cell, and narrower if the
table would not fit otherwise.
-/
set_option autoImplicit false

namespace Articulation.Console

structure Column where
  heading : String
  alignment : Alignment
  /-- Whether the column may become narrower. -/
  mayShrink : Bool

/-- Cells and title may have markup. -/
structure Table where
  title : String
  columns : List Column
  rows : List (List String)

def isLineEnd (c : Char) : Bool :=
  [0x0A, 0x1C, 0x1D, 0x1E, 0x85, 0x2028, 0x2029].contains c.toNat

def widest (size : Nat) : List Char → Nat
  | [] => size
  | c :: cs => if isLineEnd c then max size (widest 0 cs) else widest (size + columnsOf c) cs

def padding : Nat := 2

def roundedQuotient (num den : Nat) : Nat :=
  let below := num / den
  let twice := 2 * (num % den)
  if den < twice || (twice == den && below % 2 == 1) then below + 1 else below

/-- Takes an excess away from the chosen widths in equal parts, from each at most its limit. -/
def reduced (excess chosen : Nat) : List (Nat × Nat × Bool) → List Nat
  | [] => []
  | (width, limit, isChosen) :: more =>
    if isChosen && limit != 0 && chosen != 0 then
      let part := min limit (roundedQuotient excess chosen)
      (width - part) :: reduced (excess - part) (chosen - 1) more
    else width :: reduced excess chosen more

def total (widths : List Nat) : Nat := widths.foldl (· + ·) 0

def reduce (excess : Nat) (ws : List (Nat × Nat × Bool)) : List Nat :=
  let chosen := (ws.filter fun w => w.2.2 && w.2.1 != 0).length
  if chosen = 0 then ws.map (·.1) else reduced excess chosen ws

/-- Makes the widest columns as narrow as the next ones until the columns fit, if that goes. -/
def collapsed (room : Nat) : Nat → List (Nat × Bool) → List (Nat × Bool)
  | 0, ws => ws
  | bound + 1, ws =>
    let shrinking := (ws.filter (·.2)).map Prod.fst
    let most := shrinking.foldl max 0
    let second := (shrinking.filter (· != most)).foldl max 0
    if total (ws.map Prod.fst) ≤ room || shrinking.isEmpty || most == second then ws
    else
      let excess := total (ws.map Prod.fst) - room
      let limit := min excess (most - second)
      let narrower := reduce excess (ws.map fun w => (w.1, limit, w.2 && w.1 == most))
      collapsed room bound (narrower.zip (ws.map Prod.snd))

def columnWidths (room : Nat) (ws : List (Nat × Bool)) : List Nat :=
  if total (ws.map Prod.fst) ≤ room then ws.map Prod.fst
  else
    let narrower := (collapsed room (total (ws.map Prod.fst) + 1) ws).map Prod.fst
    if total narrower ≤ room then narrower
    else reduce (total narrower - room) (narrower.map fun w => (w, w, true))

structure Rule where
  left : Char
  line : Char
  crossing : Char
  right : Char

def Rule.draw (r : Rule) (widths : List Nat) : List Char :=
  r.left :: List.intercalate [r.crossing] (widths.map fun w => List.replicate w r.line) ++ [r.right]

def topRule : Rule := ⟨'┏', '━', '┳', '┓'⟩

def headRule : Rule := ⟨'┡', '━', '╇', '┩'⟩

def bottomRule : Rule := ⟨'└', '─', '┴', '┘'⟩

def cellLines (c : Column) (width : Nat) (text : List Char) : List (List Char) :=
  if width ≤ padding then []
  else (wrapped (width - padding) .ellipsis c.mayShrink c.alignment text).map fun line =>
    ' ' :: line ++ [' ']

def rowLines (separator : Char) (columns : List Column) (widths : List Nat)
    (texts : List (List Char)) : List (List Char) :=
  let cells := (columns.zip (widths.zip texts)).map fun (c, w, t) => (w, cellLines c w t)
  let height := (cells.map fun c => c.2.length).foldl max 1
  (List.range height).map fun n =>
    let parts := cells.map fun (w, ls) => padded w (ls.getD n [])
    separator :: List.intercalate [separator] parts ++ [separator]

def Table.lines (t : Table) (width : Nat) : Except MarkupError (List (List Char)) := do
  let title ← shown t.title
  let headings ← t.columns.mapM fun c => shown c.heading
  let rows ← t.rows.mapM fun row => row.mapM shown
  let frame := t.columns.length + 1
  let contents := t.columns.zipIdx.map fun (c, n) =>
    let sizes := (headings :: rows).map fun row => widest 0 (row.getD n [])
    (min (sizes.foldl max 0 + padding) (width - frame), c.mayShrink)
  let widths := columnWidths (width - frame) contents
  pure (wrapped (total widths + frame) .fold true .centre title ++
    topRule.draw widths :: rowLines '┃' t.columns widths headings ++
    headRule.draw widths :: rows.flatMap (rowLines '│' t.columns widths) ++
    [bottomRule.draw widths])

def panel (title : String) (lines : List String) : List (List Char) :=
  let texts := lines.map String.toList
  let width := (texts.map columns).foldl max 0
  let heading := ' ' :: title.toList ++ [' ']
  let excess := width - columns heading
  let edge (n : Nat) : List Char := List.replicate n '─'
  ('╭' :: edge (excess / 2 + 1) ++ heading ++ edge (excess - excess / 2 + 1) ++ ['╮']) ::
    texts.map (fun line => '│' :: ' ' :: padded width line ++ [' ', '│']) ++
    ['╰' :: edge (width + 2) ++ ['╯']]

end Articulation.Console
