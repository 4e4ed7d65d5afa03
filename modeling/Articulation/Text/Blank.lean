/-!
White space, the words it separates, and the text left when it is cut off at both ends.
-/
set_option autoImplicit false

namespace Articulation.Text

/-- White space is more than the six ASCII blanks: the four information separators, the next-line
character and the space separators of Unicode count too, a zero-width space does not. -/
def isBlank (c : Char) : Bool :=
  let n := c.toNat
  (9 ≤ n && n ≤ 13) || (28 ≤ n && n ≤ 32) || n == 0x85 || n == 0xA0 || n == 0x1680 ||
    (0x2000 ≤ n && n ≤ 0x200A) || n == 0x2028 || n == 0x2029 || n == 0x202F || n == 0x205F ||
    n == 0x3000

def wordsAfter (word : List Char) : List Char → List (List Char)
  | [] => if word.isEmpty then [] else [word.reverse]
  | c :: cs =>
    if isBlank c then
      if word.isEmpty then wordsAfter [] cs else word.reverse :: wordsAfter [] cs
    else wordsAfter (c :: word) cs

def words (cs : List Char) : List (List Char) := wordsAfter [] cs

def trimLeft (cs : List Char) : List Char := cs.dropWhile isBlank

def trim (cs : List Char) : List Char := (trimLeft (trimLeft cs).reverse).reverse

/-- ASCII letters alone change: every word that is compared after lowering is an ASCII word, and no
other letter lowers to one of its letters. -/
def lower (cs : List Char) : List Char := cs.map Char.toLower

end Articulation.Text
