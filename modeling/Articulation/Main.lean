import Articulation.CommandLine.Run
/-!
The program: its commands on the files of the computer.
-/
set_option autoImplicit false

namespace Articulation

def errorNumber : IO.Error → Nat
  | .noFileOrDirectory _ code _ | .permissionDenied _ code _ | .inappropriateType _ code _
  | .invalidArgument _ code _ | .noSuchThing _ code _ | .otherError code _ => code.toNat
  | _ => 0

def FileError.ofNumber (n : Nat) : FileError :=
  ([.notFound, .accessDenied, .notPermitted, .isDirectory, .notADirectory,
    .invalidName, .nameTooLong].find? fun e : FileError => e.number == n).getD .other

def FileError.attempt {α : Type} (act : IO α) : IO (Except FileError α) := do
  try
    let a ← act
    pure (.ok a)
  catch e => pure (.error (.ofNumber (errorNumber e)))

/-- The files of the computer. Only the first byte of a file is read to see what it is. -/
def computer : FileSystem IO where
  kind path := do
    match ← FileError.attempt (IO.FS.withFile path .read fun h => h.read 1) with
    | .ok _ => pure .file
    | .error .isDirectory => pure .directory
    | .error .notFound | .error .notADirectory | .error .nameTooLong
    | .error .invalidName => pure .absent
    | .error _ => pure .file
  read path := FileError.attempt do
    let bytes ← IO.FS.withFile path .read fun h => h.readBinToEnd
    pure bytes.toList
  write path text := FileError.attempt (IO.FS.writeFile path text)

def Level.name : Level → String
  | debug => "DEBUG"
  | info => "INFO"
  | warning => "WARNING"
  | error => "ERROR"

def Event.line? (isVerbose : Bool) : Event → Option String
  | .note .debug _ text => if isVerbose then some s!"{Level.debug.name} - {text}" else none
  | .note level _ text => some s!"{level.name} - {text}"
  | _ => none

namespace CommandLine

def Unhandled.message : Unhandled → String
  | markup _ => "closing tag has nothing to close"
  | config f => f.message?.getD "the options cannot be read"
  | compilation (.file f) => descriptionFileMessage f
  | compilation (.failure (.namelessAsset asset)) => s!"{Text.quoted asset} has an empty name"
  | compilation (.failure (.description e)) => e.message
  | output e path => e.message path

def Ending.complaint : Ending → List String
  | success | failure => []
  | usage e => [HelpTopic.program.usage, "Try 'main --help' for help.", "", s!"Error: {e.message}"]
  | unhandled f => [f.message]

end CommandLine

end Articulation

open Articulation

def main (arguments : List String) : IO UInt32 := do
  let outcome ← CommandLine.run computer arguments
  let isVerbose := CommandLine.Request.isVerbose arguments
  for event in outcome.events do
    if let some line := event.line? isVerbose then IO.eprintln line
  IO.print outcome.output
  for line in outcome.ending.complaint do IO.eprintln line
  pure (UInt32.ofNat outcome.ending.status)
