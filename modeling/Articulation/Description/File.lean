import Articulation.Description.Reading
import Articulation.Files.Basic
import Articulation.InvalidChoice
/-!
Descriptions in files.
-/
set_option autoImplicit false

namespace Articulation

inductive FileFailure where
  | file (error : FileError) (path : String)
  | notText (error : Text.Utf8Error)
  deriving DecidableEq, Repr

inductive SourceFailure where
  | file (failure : FileFailure)
  | choice (failure : InvalidChoice)
  | description (cause : DescriptionError)
  deriving Repr

namespace FileFailure

/-- An operation that the system does not permit at all is reported in the system's words. -/
def message (title : String) (other : FileError → String → String) : FileFailure → String
  | file .notFound path => s!"{title} file not found: {path}"
  | file .accessDenied path => s!"Permission denied reading file: {path}"
  | file .notPermitted _ => FileError.notPermitted.bareMessage
  | file e path => other e path
  | notText e => e.message

end FileFailure

def descriptionFileMessage : FileFailure → String :=
  FileFailure.message "Description" fun e path =>
    s!"Error reading description file {path}: {e.message path}"

def fileText (path : String) (bytes : Except FileError (List UInt8)) : Except FileFailure String :=
  match bytes with
  | .error e => .error (.file e path)
  | .ok bytes =>
    match Text.decodeUtf8 bytes with
    | .error e => .error (.notText e)
    | .ok cs => .ok (String.ofList (Text.unifyLineEnds cs))

namespace Description

/-- An up axis that does not exist is only noticed once the text has turned out to be XML. -/
def ofTextWithAxis (axis text : String) : Traced SourceFailure Description :=
  match UpAxis.ofName? axis, Xml.read text with
  | some u, _ => (ofText u text).mapError .description
  | none, .error e => .fail (.description (.badDocument e))
  | none, .ok _ => .fail (.choice ⟨.upAxis, axis⟩)

end Description

end Articulation
