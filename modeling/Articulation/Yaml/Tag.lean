import Articulation.Decimal.Reading
import Articulation.Yaml.Moment
/-!
What a node is: said by its tag or, for a plain scalar without one, by the form of its text.
-/
set_option autoImplicit false

namespace Articulation.Yaml

inductive Tag where
  | null | truth | integer | real | text | moment | binary
  | sequence | mapping | set | orderedMapping | pairs
  /-- The key whose value is a mapping to take further pairs from. -/
  | merge
  /-- The key whose value stands for the whole mapping. -/
  | defaultValue
  | unknown
  deriving DecidableEq, Repr

namespace Tag

def standardStem : String := "tag:yaml.org,2002:"

def standardNames : List (String × Tag) := [
  ("null", null), ("bool", truth), ("int", integer), ("float", real), ("str", text),
  ("timestamp", moment), ("binary", binary), ("seq", sequence), ("map", mapping), ("set", set),
  ("omap", orderedMapping), ("pairs", pairs), ("merge", merge), ("value", defaultValue)]

def ofName (name : String) : Tag :=
  ((standardNames.find? fun t => standardStem ++ t.1 == name).map Prod.snd).getD unknown

def truthWords : List (String × Bool) := [
  ("yes", true), ("no", false), ("true", true), ("false", false), ("on", true), ("off", false)]

def spellings (word : String) : List String := [word, word.capitalize, word.toUpper]

def isTruth (cs : List Char) : Bool :=
  (truthWords.flatMap fun w => spellings w.1).contains (String.ofList cs)

def isNull (cs : List Char) : Bool := ("" :: "~" :: spellings "null").contains (String.ofList cs)

def isDigitOrGap (c : Char) : Bool := c.isDigit || c == '_'

def parts (mark : Char) : List Char → List (List Char)
  | [] => [[]]
  | c :: cs =>
    if c = mark then [] :: parts mark cs
    else match parts mark cs with
      | w :: ws => (c :: w) :: ws
      | [] => [[c]]

def isSixtieth : List Char → Bool
  | [d] => d.isDigit
  | [a, d] => '0' ≤ a && a ≤ '5' && d.isDigit
  | _ => false

def hasSixtieths (leading : Char → Bool) (cs : List Char) : Bool :=
  match parts ':' cs with
  | first :: second :: more =>
    first.head?.any leading && first.all isDigitOrGap && (second :: more).all isSixtieth
  | _ => false

def isFromOne (c : Char) : Bool := '1' ≤ c && c ≤ '9'

def isInteger (cs : List Char) : Bool :=
  let cs := (Decimal.signed cs).2
  match cs with
  | ['0'] => true
  | '0' :: 'b' :: ds => !ds.isEmpty && ds.all fun c => c == '0' || c == '1' || c == '_'
  | '0' :: 'x' :: ds => !ds.isEmpty && ds.all fun c => isHexDigit c || c == '_'
  | '0' :: ds => ds.all fun c => ('0' ≤ c && c ≤ '7') || c == '_'
  | c :: ds => (isFromOne c && ds.all isDigitOrGap) || hasSixtieths isFromOne cs
  | [] => false

/-- An exponent has a sign. -/
def isExponent : List Char → Bool
  | [] => true
  | e :: sign :: ds =>
    (e == 'e' || e == 'E') && (sign == '-' || sign == '+') && !ds.isEmpty && ds.all Char.isDigit
  | _ => false

def isInfinity (cs : List Char) : Bool := ["inf", "Inf", "INF"].contains (String.ofList cs)

def isNotANumber (cs : List Char) : Bool := ["nan", "NaN", "NAN"].contains (String.ofList cs)

/-- A real number has a point. Without digits in front of it, it has no sign. -/
def isReal (cs : List Char) : Bool :=
  let (whole, rest) := ((Decimal.signed cs).2.takeWhile (· != '.'),
    (Decimal.signed cs).2.dropWhile (· != '.'))
  let isUnsigned := (Decimal.signed cs).2 == cs
  match rest with
  | '.' :: rest =>
    let tail := rest.dropWhile isDigitOrGap
    if whole.isEmpty then
      isInfinity rest ||
        (isUnsigned && (isNotANumber rest || (rest.head?.any Char.isDigit && isExponent tail)))
    else
      (whole.head?.any Char.isDigit && whole.all isDigitOrGap && isExponent tail) ||
        (hasSixtieths Char.isDigit whole && tail.isEmpty)
  | _ => false

/-- One line end at the end of a text does not count. -/
def withoutLastBreak (cs : List Char) : List Char :=
  if cs.length ≠ 1 ∧ cs.getLast? = some '\n' then cs.dropLast else cs

def ofPlain (text : List Char) : Tag :=
  let cs := withoutLastBreak text
  if isTruth cs then truth
  else if isReal cs then real
  else if isInteger cs then integer
  else if cs = ['<', '<'] then merge
  else if isNull cs then null
  else if Moment.isMoment cs then moment
  else if cs = ['='] then defaultValue
  else if cs = ['!'] ∨ cs = ['&'] ∨ cs = ['*'] then unknown
  else Tag.text

example : ofPlain "1e-3".toList = text ∧ ofPlain "1.0e-3".toList = real ∧
    ofPlain "0o17".toList = text ∧ ofPlain "010".toList = integer ∧ ofPlain "1:30".toList = integer ∧
    ofPlain "1:30.5".toList = real ∧ ofPlain "y".toList = text ∧ ofPlain "-.5".toList = text := by
  decide +kernel

end Tag

end Articulation.Yaml
