import Articulation.CommandLine.Help
import Articulation.Compile.File
import Articulation.Config.File
import Articulation.Console.Table
import Articulation.Json
import Articulation.Robot.Data
/-!
The commands of the program, on any file system.
-/
set_option autoImplicit false

namespace Articulation.CommandLine

inductive Unhandled where
  | markup (failure : Console.MarkupError)
  | config (failure : ConfigFailure)
  | compilation (failure : FileCompileFailure)
  | output (failure : FileError) (path : String)
  deriving Repr

inductive Ending where
  | success
  | failure
  | usage (error : UsageError)
  | unhandled (failure : Unhandled)
  deriving Repr

def Ending.status : Ending → Nat
  | success => 0
  | failure | unhandled _ => 1
  | usage _ => 2

structure Outcome where
  output : String
  ending : Ending
  events : List Event

namespace Outcome

def plain (lines : List String) : Outcome :=
  ⟨String.join (lines.map (· ++ "\n")), .success, []⟩

def unhandled (f : Unhandled) (events : List Event) : Outcome := ⟨"", .unhandled f, events⟩

def usage (e : UsageError) : Outcome := ⟨"", .usage e, []⟩

end Outcome

def terminalWidth : Nat := 240

def ofLines (lines : List (List Char)) : String :=
  String.ofList (lines.flatMap fun line => line ++ ['\n'])

def messageText (s : String) : Except Console.MarkupError String := do
  pure (ofLines (Console.wrapped terminalWidth .fold true .none (← Console.shown s)))

def printing (ending : Ending) (events : List Event) : List String → Outcome
  | [] => ⟨"", ending, events⟩
  | s :: ss =>
    match messageText s with
    | .error e => .unhandled (.markup e) events
    | .ok text =>
      let more := printing ending events ss
      { more with output := text ++ more.output }

def reported (title message : String) (events : List Event) : Outcome :=
  printing .failure events [s!"✗ {title}: {message}"]

def notFoundTitle : String := "Error"

def configurationTitle : String := "Configuration Error"

def configOutcome (f : ConfigFailure) : Outcome :=
  match f, f.message? with
  | .file (.file .notFound _), some message => reported notFoundTitle message []
  | .file (.file _ _), _ => .unhandled (.config f) []
  | _, some message => reported configurationTitle message []
  | _, none => .unhandled (.config f) []

def compilationOutcome (f : FileCompileFailure) (events : List Event) : Outcome :=
  match f with
  | .file (.file .notFound path) =>
    reported notFoundTitle (descriptionFileMessage (.file .notFound path)) events
  | .file (.notText e) => reported configurationTitle e.message events
  | .failure (.description e) => reported e.kind.name e.message events
  | f => .unhandled (.compilation f) events

def nodeColumns : List Console.Column := [
  ⟨"Node", .left, false⟩, ⟨"Parent", .left, true⟩, ⟨"Joint", .left, true⟩, ⟨"Drives", .left, true⟩,
  ⟨"Limits", .left, true⟩, ⟨"Mass", .right, true⟩, ⟨"Mesh", .left, true⟩]

def nothing : String := "-"

def orNothing (s : String) : String := if s.isEmpty then nothing else s

def limitsText (l : Limits) : String :=
  s!"[{Decimal.fixed 2 l.lower}, {Decimal.fixed 2 l.upper}]"

def nodeRow (n : NodeEntry) : List String := [
  n.name,
  orNothing (n.parent.getD ""),
  match n.joint with
  | some j => j.type.name
  | none => "root",
  orNothing (commaSeparated ((n.joint.map fun j => j.driveAxes.map Axis.name).getD [])),
  ((n.joint.bind (·.limits)).map limitsText).getD nothing,
  Decimal.fixed 3 n.mass,
  if n.visual.isSome then "✓" else nothing]

def nodeTable (r : Robot) : Console.Table :=
  ⟨s!"Kinematic Tree: {r.name}", nodeColumns, r.nodes.map nodeRow⟩

section

variable {m : Type → Type} [Monad m] (fs : FileSystem m)

/-- The normal form of a path, in which it is read, written and shown. -/
def normalPath (path : String) : String := (AssetPath.ofString path).toString

def checkPath (argument : String) (mustBeDirectory : Bool) (path : String) :
    m (Option UsageError) := do
  match ← fs.kind path with
  | .absent => pure (some (.absentPath argument path))
  | .file => pure (if mustBeDirectory then some (.notADirectory argument path) else none)
  | .directory => pure none

def checkOptional (argument : String) (mustBeDirectory : Bool) (path : Option String) :
    m (Option UsageError) :=
  match path with
  | some path => checkPath fs argument mustBeDirectory path
  | none => pure none

def loadConfig (path : Option String) (o : Config.Overrides) :
    m (Except ConfigFailure Config) := do
  match path with
  | none => pure (Config.load none o)
  | some path =>
    let path := normalPath path
    pure (Config.load (some (path, ← fs.read path)) o)

def assetPath (root asset : String) : String :=
  normalPath (if asset.startsWith "/" then asset else root ++ "/" ++ asset)

def findAssets (root : String) : List String → m (List (String × String))
  | [] => pure []
  | asset :: assets => do
    let path := assetPath root asset
    let kind ← fs.kind path
    let more ← findAssets root assets
    pure (if kind = .file then (asset, path) :: more else more)

/-- What a compilation asks its lookup for if it goes on whatever the answers are. -/
def collisionQueries (config : Config) (path : String) (bytes : Except FileError (List UInt8)) :
    List String :=
  let c : Compiler := ⟨{ config with requireCollision := false }, some fun _ => none, none⟩
  (c.compileFile path bytes).events.filterMap fun
    | .collisionQuery identifier => some identifier
    | _ => none

def compileAt (config : Config) (path : String) (assetRoot : Option String) :
    m (Traced FileCompileFailure Compilation) := do
  let bytes ← fs.read path
  match assetRoot with
  | none => pure (Compiler.compileFile ⟨config, none, none⟩ path bytes)
  | some root =>
    let assets ← findAssets fs root (collisionQueries config path bytes)
    pure (Compiler.compileFile ⟨config, some fun asset => assets.lookup asset, none⟩ path bytes)

def save (r : Robot) (path : String) (events : List Event) : m Outcome := do
  match ← fs.write path (Yaml.text r.fields) with
  | .error e => pure (.unhandled (.output e path) events)
  | .ok () =>
    pure (printing .success events
      [s!"✓ Compiled {r.name}: {r.nodes.length} nodes", s!"  Saved to: {path}"])

def runCompile (r : CompileRequest) : m Outcome := do
  match ← loadConfig fs r.config r.overrides with
  | .error f => pure (configOutcome f)
  | .ok config =>
    let t ← compileAt fs config (normalPath r.description) r.assetRoot
    match t.result with
    | .error f => pure (compilationOutcome f t.events)
    | .ok compilation =>
      match r.output with
      | some path => save fs compilation.robot (normalPath path) t.events
      | none =>
        pure ⟨Json.text (some 2) compilation.robot.data ++ "\n", .success, t.events⟩

def runInspect (description : String) (config : Option String) : m Outcome := do
  match ← loadConfig fs config .nothing with
  | .error f => pure (configOutcome f)
  | .ok config =>
    let t ← compileAt fs config (normalPath description) none
    match t.result with
    | .error f => pure (compilationOutcome f t.events)
    | .ok compilation =>
      match (nodeTable compilation.robot).lines terminalWidth with
      | .ok lines => pure ⟨ofLines lines, .success, t.events⟩
      | .error e => pure (.unhandled (.markup e) t.events)

def checkPaths : Request → m (Option UsageError)
  | .compile r => do
    let e₁ ← checkPath fs Request.descriptionArgument false r.description
    let e₂ ← checkOptional fs "--config" false r.config
    let e₃ ← checkOptional fs "--asset-root" true r.assetRoot
    pure (e₁.orElse fun _ => e₂.orElse fun _ => e₃)
  | .inspect description config => do
    let e₁ ← checkPath fs Request.descriptionArgument false description
    let e₂ ← checkOptional fs "--config" false config
    pure (e₁.orElse fun _ => e₂)
  | _ => pure none

def runRequest : Request → m Outcome
  | .version => pure (.plain [versionLine])
  | .help topic => pure (.plain topic.lines)
  | .compile r => runCompile fs r
  | .inspect description config => runInspect fs description config
  | .info => pure ⟨ofLines (Console.panel infoTitle infoLines), .success, []⟩

def run (arguments : List String) : m Outcome := do
  match Request.ofArguments arguments with
  | .error e => pure (.usage e)
  | .ok request =>
    match ← checkPaths fs request with
    | some e => pure (.usage e)
    | none => runRequest fs request

end

end Articulation.CommandLine
