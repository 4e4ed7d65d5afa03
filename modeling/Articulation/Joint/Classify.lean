import Articulation.Joint.Basic
import Articulation.Text.Blank
import Articulation.Trace
/-!
Joint records as a description gives them, and the joints that they stand for.
-/
set_option autoImplicit false

namespace Articulation

structure LimitRecord where
  lower : Float
  upper : Float
  velocity : Option Float
  deriving Repr, BEq

structure JointRecord where
  name : String
  type : Option String
  parent : String
  child : String
  origin : Pose
  axis : Option (List Float)
  limit : Option LimitRecord
  deriving Repr, BEq

def JointType.read (text joint : Option String) : Except DescriptionError JointType :=
  match text with
  | none | some "" => .error (.missingJointType joint)
  | some text =>
    match JointType.ofName? (String.ofList (Text.lower (Text.trim text.toList))) with
    | some t => .ok t
    | none => .error (.unsupportedJointType text joint)

/-- The components that differ from zero, with their axes; a component that is no number does. -/
def activeComponents (axis : List Float) : List (Axis × Float) :=
  (Axis.all.zip axis).filter fun (_, c) => c != 0

/-- A single-axis joint turns about or slides along the one axis whose component differs from
zero, in the direction of that component. -/
def resolveAxis (axis : Option (List Float)) (joint : String) :
    Except DescriptionError (Axis × Int) :=
  match axis with
  | none => .error (.missingAxis joint)
  | some axis =>
    match activeComponents axis with
    | [] => .error (.missingAxis joint)
    | [(a, c)] => .ok (a, if 0 < c then 1 else -1)
    | _ => .error (.compoundAxis axis joint)

namespace JointRecord

def requiredLimits (r : JointRecord) : Except DescriptionError Limits :=
  match r.limit with
  | none => .error (.missingLimit r.name)
  | some ⟨_, _, none⟩ => .error (.missingVelocity r.name)
  | some ⟨lower, upper, some velocity⟩ => .ok ⟨lower, upper, velocity⟩

def undriven (r : JointRecord) (type : JointType) : Joint :=
  .undriven r.name type r.parent r.child r.origin

def limitedJoint (r : JointRecord) (type : JointType) (locks : Axis → Option LinearLocks) :
    Except DescriptionError Joint := do
  let (axis, sign) ← resolveAxis r.axis r.name
  let limits ← r.requiredLimits
  pure { r.undriven type with
    drives := [⟨axis, limits.velocity, some limits⟩]
    limits := some limits
    velocityLimit := limits.velocity
    linearLocks := locks axis
    axisSign := sign }

/-- The axis is asked for before the limits. -/
def resolve (r : JointRecord) : JointType → Except DescriptionError Joint
  | .fixed => .ok (r.undriven .fixed)
  | .continuous => do
    let (axis, sign) ← resolveAxis r.axis r.name
    pure { r.undriven .continuous with
      drives := [⟨axis, defaultVelocityLimit, none⟩]
      velocityLimit := defaultVelocityLimit
      axisSign := sign }
  | .revolute => r.limitedJoint .revolute fun _ => none
  | .prismatic => r.limitedJoint .prismatic fun axis => some (.sliding axis)
  | .floating => .ok { r.undriven .floating with
      drives := Axis.all.map fun axis => ⟨axis, defaultVelocityLimit, none⟩
      velocityLimit := defaultVelocityLimit }

def joint (r : JointRecord) : Except DescriptionError Joint := do
  r.resolve (← JointType.read r.type r.name)

end JointRecord

def truthText (b : Bool) : String := if b then "True" else "False"

def quotedList (ss : List String) : String :=
  "[" ++ commaSeparated (ss.map fun s => "'" ++ s ++ "'") ++ "]"

def Joint.summary (j : Joint) : String :=
  s!"Classified joint {j.name}: {j.type.name} drives={quotedList (j.driveAxes.map Axis.name)} " ++
    s!"limits={truthText j.limits.isSome}"

def classifyJoint (r : JointRecord) : Traced DescriptionError Joint := do
  let j ← r.joint
  Traced.note .debug .joints j.summary
  pure j

@[simp] theorem result_classifyJoint (r : JointRecord) : (classifyJoint r).result = r.joint := by
  simp only [classifyJoint, Traced.result_bind]
  show (r.joint >>= fun j => _) = _
  cases r.joint <;> rfl

end Articulation
