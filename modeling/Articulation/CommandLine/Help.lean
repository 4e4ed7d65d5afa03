import Articulation.CommandLine.Request
import Articulation.DescriptionError
/-!
What the program says about itself and about arguments that it cannot follow.
-/
set_option autoImplicit false

namespace Articulation.CommandLine

def version : String := "1.0.0"

def versionLine : String := s!"main, version {version}"

def HelpTopic.usage : HelpTopic → String
  | program => "Usage: main [OPTIONS] COMMAND [ARGS]..."
  | compile => "Usage: main compile [OPTIONS] DESCRIPTION_FILE"
  | inspect => "Usage: main inspect [OPTIONS] DESCRIPTION_FILE"
  | info => "Usage: main info [OPTIONS]"

def HelpTopic.body : HelpTopic → List String
  | program => [
    "  URDF Articulator - compile robot descriptions into articulation trees.",
    "",
    "  Parse URDF robot descriptions, resolve joint drives and collision geometry,",
    "  and emit the node-creation sequence for a physics engine.",
    "",
    "Options:",
    "  --version      Show the version and exit.",
    "  -v, --verbose  Enable verbose logging",
    "  --help         Show this message and exit.",
    "",
    "Commands:",
    "  compile  Compile a robot description into a node-creation sequence.",
    "  info     Display information about URDF Articulator.",
    "  inspect  Show the compiled kinematic tree of a robot description."]
  | compile => [
    "  Compile a robot description into a node-creation sequence.",
    "",
    "  DESCRIPTION_FILE: Path to URDF file",
    "",
    "  Examples:     urdf-articulator compile robot.urdf -o robot.yaml     urdf-",
    "  articulator compile robot.urdf --up-axis z --no-prune",
    "",
    "Options:",
    "  -c, --config PATH               Compiler configuration YAML file",
    "  -o, --output PATH               Write the result to this YAML file",
    "  --up-axis [y|z]                 Up axis of the target engine",
    "  --collision-source [engine-native|external-decomposition]",
    "                                  Collision asset naming convention",
    "  --prune / --no-prune            Remove redundant nodes",
    "  --asset-root DIRECTORY          Resolve collision assets against this",
    "                                  directory",
    "  --help                          Show this message and exit."]
  | inspect => [
    "  Show the compiled kinematic tree of a robot description.",
    "",
    "  DESCRIPTION_FILE: Path to URDF file",
    "",
    "  Examples:     urdf-articulator inspect robot.urdf",
    "",
    "Options:",
    "  -c, --config PATH  Compiler configuration YAML file",
    "  --help             Show this message and exit."]
  | info => [
    "  Display information about URDF Articulator.",
    "",
    "  Shows version, features, and usage information.",
    "",
    "Options:",
    "  --help  Show this message and exit."]

def HelpTopic.lines (t : HelpTopic) : List String := t.usage :: "" :: t.body

def infoTitle : String := "URDF Articulator"

def infoLines : List String := [
  s!"URDF Articulator v{version}",
  "",
  "Features:",
  "  • Link, joint and material extraction",
  "  • Kinematic tree construction and validation",
  "  • Joint drive and limit resolution",
  "  • Redundant node pruning",
  "  • Collision geometry association",
  "",
  "Commands:",
  "  • compile    Compile a robot description",
  "  • inspect    Show the compiled kinematic tree",
  "  • info       Show this information",
  "",
  "Usage:",
  "  urdf-articulator --help",
  "  urdf-articulator <command> --help"]

def UsageError.message : UsageError → String
  | noArguments | noCommand => "Missing command."
  | unknownCommand name => s!"No such command '{name}'."
  | unknownOption name => s!"No such option: {name}"
  | noValue option => s!"Option '{option}' requires an argument."
  | surplusValue option => s!"Option '{option}' does not take a value."
  | badChoice option value choices =>
    s!"Invalid value for '{option}': '{value}' is not one of {commaSeparated choices}."
  | missingArgument name => s!"Missing argument '{name}'."
  | surplusArguments arguments =>
    let shown := String.intercalate " " arguments
    if arguments.length = 1 then s!"Got unexpected extra argument ({shown})"
    else s!"Got unexpected extra arguments ({shown})"
  | absentPath argument path => s!"Invalid value for '{argument}': Path '{path}' does not exist."
  | notADirectory argument path =>
    s!"Invalid value for '{argument}': Directory '{path}' is a file."

end Articulation.CommandLine
