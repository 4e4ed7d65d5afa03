import Articulation.Decimal.Layout
import Articulation.Xml.SyntaxError
/-!
Why a robot description cannot be compiled. Every cause belongs to one of five kinds, and most name
the link, joint or material that is to blame.
-/
set_option autoImplicit false

namespace Articulation

inductive ErrorKind where
  | malformedDescription | unsupportedJointType | ambiguousRoot | missingAxis | missingAsset
  deriving DecidableEq, Repr

def ErrorKind.name : ErrorKind → String
  | malformedDescription => "malformed_description"
  | unsupportedJointType => "unsupported_joint_type"
  | ambiguousRoot => "ambiguous_root"
  | missingAxis => "missing_axis"
  | missingAsset => "missing_asset"

inductive Role where
  | parent | child
  deriving DecidableEq, Repr

def Role.name : Role → String
  | parent => "parent"
  | child => "child"

inductive DescriptionError where
  | badDocument (cause : Xml.SyntaxError)
  | notARobot (tag : String)
  | missingAttribute (tag key : String) (subject : Option String)
  | badNumber (text : String) (subject : Option String)
  | missingVector (subject : Option String)
  | badVector (text : String) (subject : Option String)
  | vectorSize (expected actual : Nat) (text : String) (subject : Option String)
  | colourOutOfRange (text : String) (subject : Option String)
  | missingMass (link : String)
  | negativeMass (link : String) (mass : Float)
  | namelessMesh (reference link : String)
  | duplicateLink (link : String)
  | missingReference (role : Role) (joint : String)
  | missingOrigin (joint : String)
  | missingJointType (joint : Option String)
  | unsupportedJointType (text : String) (joint : Option String)
  | missingAxis (joint : String)
  | compoundAxis (axis : List Float) (joint : String)
  | missingLimit (joint : String)
  | missingVelocity (joint : String)
  | duplicateJoint (joint : String)
  | unknownLink (role : Role) (link joint : String)
  | claimedTwice (link first second : String)
  | noRoot
  | severalRoots (first second : String) (others : List String)
  | unknownRoot (link : String)
  | rootIsChild (link joint : String)
  | unreachable (root first : String) (others : List String)
  | missingCollision (identifier link : String)
  | missingMesh (asset link : String)
  deriving Repr

def jointTypeNames : List String := ["fixed", "continuous", "revolute", "prismatic", "floating"]

def commaSeparated (ss : List String) : String := String.intercalate ", " ss

def rowText : List Float → String
  | [x] => s!"({floatText x},)"
  | xs => s!"({commaSeparated (xs.map floatText)})"

def nameText (subject : Option String) : String := subject.getD "None"

namespace DescriptionError

def kind : DescriptionError → ErrorKind
  | unsupportedJointType .. => .unsupportedJointType
  | missingAxis .. | compoundAxis .. => .missingAxis
  | noRoot | severalRoots .. => .ambiguousRoot
  | missingCollision .. | missingMesh .. => .missingAsset
  | _ => .malformedDescription

def subject : DescriptionError → Option String
  | badDocument _ | notARobot _ | noRoot => none
  | missingAttribute _ _ s | badNumber _ s | missingVector s | badVector _ s | vectorSize _ _ _ s
  | colourOutOfRange _ s | missingJointType s | unsupportedJointType _ s => s
  | missingMass s | negativeMass s _ | namelessMesh _ s | duplicateLink s | missingReference _ s
  | missingOrigin s | missingAxis s | compoundAxis _ s | missingLimit s | missingVelocity s
  | duplicateJoint s | unknownLink _ _ s | claimedTwice _ _ s | severalRoots s _ _ | unknownRoot s
  | rootIsChild s _ | unreachable _ s _ | missingCollision _ s | missingMesh _ s => some s

def message : DescriptionError → String
  | badDocument cause => s!"Invalid description XML: {cause.message}"
  | notARobot tag => s!"Expected a <robot> root element, got <{tag}>"
  | missingAttribute tag key s => s!"<{tag}> is missing attribute '{key}' ({nameText s})"
  | badNumber text s => s!"Invalid number '{text}' for: {nameText s}"
  | missingVector s => s!"Missing vector value for: {nameText s}"
  | badVector text s => s!"Invalid numeric vector '{text}' for: {nameText s}"
  | vectorSize expected actual text s =>
    s!"Expected {expected} components, got {actual} in '{text}' for: {nameText s}"
  | colourOutOfRange text s => s!"RGBA components must be in [0, 1]: '{text}' ({nameText s})"
  | missingMass link => s!"Link has no mass: {link}"
  | negativeMass link mass => s!"Link mass must not be negative: {link} ({floatText mass})"
  | namelessMesh reference link => s!"Mesh reference names no asset: '{reference}' ({link})"
  | duplicateLink link => s!"Duplicate link name: {link}"
  | missingReference role joint => s!"Joint has no {role.name}: {joint}"
  | missingOrigin joint => s!"Joint has no origin: {joint}"
  | missingJointType joint => s!"Joint has no type: {nameText joint}"
  | unsupportedJointType text joint =>
    s!"Joint type not supported: '{text}' ({nameText joint}). " ++
      s!"Must be one of: {commaSeparated jointTypeNames}"
  | missingAxis joint => s!"No axis for: {joint}"
  | compoundAxis axis joint => s!"Compound axis {rowText axis} is not supported for: {joint}"
  | missingLimit joint => s!"Joint has no limit: {joint}"
  | missingVelocity joint => s!"Joint limit has no velocity: {joint}"
  | duplicateJoint joint => s!"Duplicate joint name: {joint}"
  | unknownLink role link joint => s!"Joint {joint} references unknown {role.name} link: {link}"
  | claimedTwice link first second =>
    s!"Link {link} is the child of both {first} and {second}"
  | noRoot => "No root link found: every link is a joint child (cyclic joint graph)"
  | severalRoots first second others =>
    let names := commaSeparated (first :: second :: others)
    s!"Multiple root links found: {names}. Expected a single root."
  | unknownRoot link => s!"Root link does not exist: {link}"
  | rootIsChild link joint => s!"Root link {link} is the child of joint {joint}"
  | unreachable root first others =>
    let names := commaSeparated (first :: others)
    s!"Links not reachable from root {root} (cyclic joints): {names}"
  | missingCollision identifier link => s!"No collision asset '{identifier}' for: {link}"
  | missingMesh asset link => s!"No mesh asset '{asset}' for: {link}"

end DescriptionError

end Articulation
