/-!
The characters of YAML 1.1.
-/
set_option autoImplicit false

namespace Articulation.Yaml

def nextLine : Char := '\x85'

def lineSeparator : Char := '\u2028'

def paragraphSeparator : Char := '\u2029'

def byteOrderMark : Char := '\uFEFF'

def isBreak (c : Char) : Bool :=
  c == '\n' || c == '\r' || c == nextLine || c == lineSeparator || c == paragraphSeparator

def isBlank (c : Char) : Bool := c == ' ' || c == '\t'

def atGap : List Char → Bool
  | [] => true
  | c :: _ => isBlank c || isBreak c

def atSpace : List Char → Bool
  | [] => true
  | c :: _ => c == ' ' || isBreak c

def atLineEnd : List Char → Bool
  | [] => true
  | c :: _ => isBreak c

def isStreamChar (c : Char) : Bool :=
  let n := c.toNat
  n == 9 || n == 10 || n == 13 || (0x20 ≤ n && n ≤ 0x7E) || n == 0x85 ||
    (0xA0 ≤ n && n ≤ 0xFFFD) || 0x10000 ≤ n

def isNameChar (c : Char) : Bool := c.isAlphanum || c == '-' || c == '_'

/-- A line end in front of a text, as the character that it stands for. -/
def takeBreak? : List Char → Option (Char × List Char)
  | '\r' :: '\n' :: cs => some ('\n', cs)
  | c :: cs =>
    if c = lineSeparator ∨ c = paragraphSeparator then some (c, cs)
    else if isBreak c then some ('\n', cs)
    else none
  | [] => none

def atMark (mark : Char) (cs : List Char) : Bool :=
  cs.take 3 == [mark, mark, mark] && atGap (cs.drop 3)

def atDocumentMark (cs : List Char) : Bool := atMark '-' cs || atMark '.' cs

end Articulation.Yaml
