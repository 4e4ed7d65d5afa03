import Articulation.DescriptionError
import Articulation.Decimal.Reading
import Articulation.Vec3
/-!
Numbers and rows of numbers as attributes write them.
-/
set_option autoImplicit false

namespace Articulation

def readNumber (text : String) (subject : Option String) : Except DescriptionError Float :=
  match readFloat? text.toList with
  | some x => .ok x
  | none => .error (.badNumber text subject)

def readRow? (text : String) : Option (List Float) := (Text.words text.toList).mapM readFloat?

/-- An absent text is refused first, then one with a word that is no number, then a wrong count. -/
def readVector (size : Nat) (text : Option String) (subject : Option String) :
    Except DescriptionError (List Float) :=
  match text with
  | none => .error (.missingVector subject)
  | some text =>
    match readRow? text with
    | none => .error (.badVector text subject)
    | some xs =>
      if xs.length = size then .ok xs else .error (.vectorSize size xs.length text subject)

theorem length_of_readVector {size : Nat} {text subject : Option String} {xs : List Float}
    (h : readVector size text subject = .ok xs) : xs.length = size := by
  unfold readVector at h
  split at h <;> grind

theorem row_of_readVector {size : Nat} {text : String} {subject : Option String} {xs : List Float}
    (h : readVector size (some text) subject = .ok xs) : readRow? text = some xs := by
  unfold readVector at h
  grind

def readVec3 (text : String) (subject : Option String) : Except DescriptionError (Vec3 Float) :=
  match h : readVector 3 (some text) subject with
  | .error e => .error e
  | .ok xs => .ok (.ofList xs (length_of_readVector h))

end Articulation
