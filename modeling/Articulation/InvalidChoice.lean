import Articulation.Text.Quoted
/-!
Names that must be exactly one of a few and are not.
-/
set_option autoImplicit false

namespace Articulation

inductive Choice where
  | upAxis | collisionSource | jointType
  deriving DecidableEq, Repr

def Choice.title : Choice → String
  | upAxis => "UpAxis"
  | collisionSource => "CollisionSource"
  | jointType => "JointType"

structure InvalidChoice where
  choice : Choice
  name : String
  deriving DecidableEq, Repr

def InvalidChoice.message (c : InvalidChoice) : String :=
  s!"{Text.quoted c.name} is not a valid {c.choice.title}"

end Articulation
