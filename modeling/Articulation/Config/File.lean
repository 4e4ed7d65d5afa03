import Articulation.Config.Options
import Articulation.Description.File
import Articulation.Yaml.Value
import Articulation.Yaml.Write
/-!
Options in files.
-/
set_option autoImplicit false

namespace Articulation

inductive ConfigFailure where
  | file (failure : FileFailure)
  | stream (cause : Yaml.Failure) (path : String)
  | notARecord (path : String)
  | options (cause : ConfigError)
  deriving Repr

/-- Bytes that are no text have no value as an option. -/
def OptionValue.ofValue : Yaml.Value → OptionValue
  | .null => .null
  | .truth b => .truth b
  | .integer i => .integer i
  | .real x => .real x
  | .text s => .text s
  | .bytes bs =>
    match Text.decodeUtf8 bs with
    | .ok cs => .bytes (String.ofList cs)
    | .error _ => .bytes ""
  | _ => .other

namespace Config

def configFileMessage : FileFailure → String := FileFailure.message "Config" FileError.message

def optionName? : Yaml.Value → Option String
  | .text name => some name
  | _ => none

/-- What is given as options; a key that is no text has no name. -/
abbrev Mapping := List (Option String × OptionValue)

def givenOption? (e : Option String × OptionValue) : Option (String × OptionValue) :=
  e.1.map fun name => (name, e.2)

/-- The last value of an option that is given twice counts. -/
def givenOptions? (m : Mapping) : Option Options :=
  (m.mapM givenOption?).map fun options => (Roster.ofList options).entries

def ofMapping (m : Mapping) : Except ConfigError Config :=
  match givenOptions? m with
  | none => .error .nameNotText
  | some options => ofOptions options

def mappingOf (entries : List (Yaml.Value × Yaml.Value)) : Mapping :=
  entries.map fun e => (optionName? e.1, OptionValue.ofValue e.2)

def optionsOf? (entries : List (Yaml.Value × Yaml.Value)) : Option Options :=
  givenOptions? (mappingOf entries)

/-- No document, and a null one, stand for no options at all. -/
def ofTextWith (read : Yaml.Reader) (path text : String) : Except ConfigFailure Config :=
  match read text.toList with
  | .error cause => .error (.stream cause path)
  | .ok .null => .ok standard
  | .ok (.record entries) => (ofMapping (mappingOf entries)).mapError .options
  | .ok _ => .error (.notARecord path)

/-- Bytes are read piece by piece, so a character cut short is alone in the last piece. -/
def pieceError : FileFailure → FileFailure
  | .notText e => .notText (if e.fault = .cutShort then { e with position := 0 } else e)
  | f => f

def ofFileWith (read : Yaml.Reader) (path : String) (bytes : Except FileError (List UInt8)) :
    Except ConfigFailure Config :=
  match fileText path bytes with
  | .error f => .error (.file (pieceError f))
  | .ok text => ofTextWith read path text

def ofFile (path : String) (bytes : Except FileError (List UInt8)) : Except ConfigFailure Config :=
  ofFileWith Yaml.read path bytes

def load (file : Option (String × Except FileError (List UInt8))) (o : Overrides) :
    Except ConfigFailure Config := do
  let c ← match file with
    | none => pure standard
    | some (path, bytes) => ofFile path bytes
  (c.merge o).mapError .options

def text (c : Config) : String := Yaml.text c.data

end Config

def ConfigError.report (errors : List OptionError) : String :=
  let count := if errors.length = 1 then "1 validation error" else
    s!"{errors.length} validation errors"
  s!"{count} for CompilerConfig" ++
    String.join (errors.map fun e => s!"\n{e.option}\n  {e.text}")

def ConfigError.errorClass : ConfigError → ErrorClass
  | notARecord | nameNotText => .type
  | invalid _ => .value

/-- A name that no file can have, and bytes that are no text, are wrong values. -/
def FileFailure.errorClass : FileFailure → ErrorClass
  | file .invalidName _ | notText _ => .value
  | file _ _ => .system

def ConfigFailure.errorClass : ConfigFailure → ErrorClass
  | file f => f.errorClass
  | stream cause _ => cause.errorClass
  | notARecord _ => .value
  | options cause => cause.errorClass

def ConfigFailure.message? : ConfigFailure → Option String
  | file f => some (Config.configFileMessage f)
  | stream .invalid path => some s!"Invalid YAML in file {path}"
  | stream cause _ => cause.message?
  | notARecord path => some s!"Config file {path} must contain a mapping of options"
  | options (.invalid errors) => some (ConfigError.report errors)
  | options _ => none

end Articulation
