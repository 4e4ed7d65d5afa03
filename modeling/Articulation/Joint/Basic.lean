import Articulation.DescriptionError
import Articulation.Frame
/-!
Joints: their types, the motion that each leaves free, and the drives that actuate it.
-/
set_option autoImplicit false

namespace Articulation

inductive JointType where
  | fixed | continuous | revolute | prismatic | floating
  deriving DecidableEq, Repr

inductive Motion where
  | fixed | revolute | prismatic | spherical
  deriving DecidableEq, Repr

inductive Axis where
  | x | y | z
  deriving DecidableEq, Repr

inductive Freedom where
  | limited | locked
  deriving DecidableEq, Repr

namespace JointType

def all : List JointType := [.fixed, .continuous, .revolute, .prismatic, .floating]

def name : JointType → String
  | fixed => "fixed"
  | continuous => "continuous"
  | revolute => "revolute"
  | prismatic => "prismatic"
  | floating => "floating"

def ofName? (s : String) : Option JointType := all.find? (·.name == s)

@[simp] theorem ofName?_name (t : JointType) : ofName? t.name = some t := by cases t <;> decide

def motion : JointType → Motion
  | fixed => .fixed
  | continuous | revolute => .revolute
  | prismatic => .prismatic
  | floating => .spherical

end JointType

def Motion.name : Motion → String
  | fixed => "fixed"
  | revolute => "revolute"
  | prismatic => "prismatic"
  | spherical => "spherical"

def Axis.name : Axis → String
  | x => "x"
  | y => "y"
  | z => "z"

def Axis.all : List Axis := [.x, .y, .z]

def Freedom.name : Freedom → String
  | limited => "limited"
  | locked => "locked"

def driveStiffness : Float := 1000

def driveDamping : Float := 180

def defaultVelocityLimit : Float := 2

structure Limits where
  lower : Float
  upper : Float
  velocity : Float
  deriving Repr, BEq

structure Drive where
  axis : Axis
  /-- The velocity limit of the joint bounds the force of its drives. -/
  forceLimit : Float
  limits : Option Limits
  deriving Repr, BEq

structure LinearLocks where
  x : Freedom
  y : Freedom
  z : Freedom
  deriving DecidableEq, Repr

namespace LinearLocks

/-- The chosen axis slides within its limits and the other two are locked. -/
def sliding : Axis → LinearLocks
  | .x => ⟨.limited, .locked, .locked⟩
  | .y => ⟨.locked, .limited, .locked⟩
  | .z => ⟨.locked, .locked, .limited⟩

def along (l : LinearLocks) : Axis → Freedom
  | .x => l.x
  | .y => l.y
  | .z => l.z

theorem along_sliding (a b : Axis) : (sliding a).along b = if a = b then .limited else .locked := by
  cases a <;> cases b <;> rfl

end LinearLocks

structure Joint where
  name : String
  type : JointType
  parent : String
  child : String
  origin : Pose
  drives : List Drive
  limits : Option Limits
  velocityLimit : Float
  linearLocks : Option LinearLocks
  /-- The direction of the drive axis: 1 or -1, and 0 where a joint has not one axis. -/
  axisSign : Int
  deriving Repr, BEq

namespace Joint

def undriven (name : String) (type : JointType) (parent child : String) (origin : Pose) : Joint :=
  ⟨name, type, parent, child, origin, [], none, 0, none, 0⟩

def driveAxes (j : Joint) : List Axis := j.drives.map (·.axis)

def lowerLimit (j : Joint) : Float := (j.limits.map (·.lower)).getD 0

def upperLimit (j : Joint) : Float := (j.limits.map (·.upper)).getD 0

def anchor (_ : Joint) : Vec3 Float := Pose.origin

end Joint

end Articulation
