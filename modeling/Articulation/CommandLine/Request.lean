import Articulation.CommandLine.Arguments
import Articulation.Config.Options
/-!
What the program is asked to do.
-/
set_option autoImplicit false

namespace Articulation.CommandLine

structure CompileRequest where
  description : String
  config : Option String
  output : Option String
  /-- The directory that holds the collision meshes. -/
  assetRoot : Option String
  overrides : Config.Overrides
  deriving Repr

inductive HelpTopic where
  | program | compile | inspect | info
  deriving DecidableEq, Repr

inductive Request where
  | version
  | help (topic : HelpTopic)
  | compile (request : CompileRequest)
  | inspect (description : String) (config : Option String)
  | info
  deriving Repr

inductive Meaning where
  | help | version | verbose | config | output | upAxis | collisionSource | prune | noPrune | assetRoot
  deriving DecidableEq, Repr

namespace Request

def helpForm : OptionForm Meaning := ⟨["--help"], .help, false⟩

def configForm : OptionForm Meaning := ⟨["-c", "--config"], .config, true⟩

def programForms : List (OptionForm Meaning) :=
  [⟨["--version"], .version, false⟩, ⟨["-v", "--verbose"], .verbose, false⟩, helpForm]

def compileForms : List (OptionForm Meaning) := [
  configForm, ⟨["-o", "--output"], .output, true⟩, ⟨["--up-axis"], .upAxis, true⟩,
  ⟨["--collision-source"], .collisionSource, true⟩, ⟨["--prune"], .prune, false⟩,
  ⟨["--no-prune"], .noPrune, false⟩, ⟨["--asset-root"], .assetRoot, true⟩, helpForm]

def choice {α : Type} (option : String) (all : List α) (name : α → String) (given : Option String) :
    Except UsageError (Option α) :=
  match given with
  | none => .ok none
  | some value =>
    match all.find? (name · == value) with
    | some a => .ok (some a)
    | none => .error (.badChoice option value (all.map name))

/-- Of two opposite flags the last one counts. -/
def pruneFlag (a : Arguments Meaning) : Option Bool :=
  (a.options.reverse.find? fun u => u.meaning == .prune || u.meaning == .noPrune).map fun u =>
    u.meaning == .prune

def onlyArgument (name : String) : List String → Except UsageError String
  | [] => .error (.missingArgument name)
  | [a] => .ok a
  | _ :: more => .error (.surplusArguments more)

def descriptionArgument : String := "DESCRIPTION_FILE"

/-- Help is given whatever else the arguments say, as long as all options are known. -/
def orHelp (topic : HelpTopic) (a : Arguments Meaning) (r : Except UsageError Request) :
    Except UsageError Request :=
  if a.has .help then .ok (.help topic) else r

def ofCompileArguments (arguments : List String) : Except UsageError Request := do
  let a ← Arguments.read compileForms true arguments
  orHelp .compile a do
    let description ← onlyArgument descriptionArgument a.others
    let upAxis ← choice "--up-axis" UpAxis.all UpAxis.name (a.last? .upAxis)
    let source ← choice "--collision-source" CollisionSource.all CollisionSource.name
      (a.last? .collisionSource)
    pure (.compile ⟨description, a.last? .config, a.last? .output, a.last? .assetRoot,
      ⟨upAxis, source, pruneFlag a⟩⟩)

def ofInspectArguments (arguments : List String) : Except UsageError Request := do
  let a ← Arguments.read [configForm, helpForm] true arguments
  orHelp .inspect a do
    let description ← onlyArgument descriptionArgument a.others
    pure (.inspect description (a.last? .config))

def ofInfoArguments (arguments : List String) : Except UsageError Request := do
  let a ← Arguments.read [helpForm] true arguments
  orHelp .info a (if a.others.isEmpty then .ok .info else .error (.surplusArguments a.others))

def isVerbose (arguments : List String) : Bool :=
  match Arguments.read programForms false arguments with
  | .ok a => a.has .verbose
  | .error _ => false

/-- The options of the program come first, then the name of a command and its arguments. Of the
options that are answered at once the first one counts. -/
def ofArguments (arguments : List String) : Except UsageError Request := do
  if arguments.isEmpty then throw .noArguments
  let a ← Arguments.read programForms false arguments
  match a.options.find? fun u => u.meaning == .help || u.meaning == .version with
  | some u => pure (if u.meaning == .help then .help .program else .version)
  | none =>
    match a.others with
    | [] => throw .noCommand
    | "compile" :: more => ofCompileArguments more
    | "inspect" :: more => ofInspectArguments more
    | "info" :: more => ofInfoArguments more
    | name :: _ => throw (.unknownCommand name)

end Request

end Articulation.CommandLine
