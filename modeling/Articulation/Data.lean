/-!
Plain data as documents hold it.
-/
set_option autoImplicit false

namespace Articulation

inductive Data where
  | null
  | truth (b : Bool)
  | integer (i : Int)
  | real (x : Float)
  | text (s : String)
  | list (items : List Data)
  | record (fields : List (String × Data))
  deriving Repr

namespace Data

def optional {α : Type} (f : α → Data) : Option α → Data
  | some a => f a
  | none => null

def reals (xs : List Float) : Data := list (xs.map real)

def isVoid : Data → Bool
  | null => true
  | truth b => !b
  | integer i => i == 0
  | real x => x == 0
  | text s => s.isEmpty
  | list items => items.isEmpty
  | record fields => fields.isEmpty

end Data

end Articulation
