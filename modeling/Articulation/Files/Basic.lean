import Articulation.Text.Quoted
import Articulation.Text.Utf8
/-!
What the program asks of a file system.
-/
set_option autoImplicit false

namespace Articulation

inductive FileError where
  | notFound | accessDenied | notPermitted | isDirectory | notADirectory | invalidName
  | nameTooLong | other
  deriving DecidableEq, Repr

namespace FileError

def number : FileError → Nat
  | notPermitted => 1
  | notFound => 2
  | other => 5
  | accessDenied => 13
  | notADirectory => 20
  | isDirectory => 21
  | invalidName => 22
  | nameTooLong => 36

def description : FileError → String
  | notPermitted => "Operation not permitted"
  | notFound => "No such file or directory"
  | other => "Input/output error"
  | accessDenied => "Permission denied"
  | notADirectory => "Not a directory"
  | isDirectory => "Is a directory"
  | invalidName => "Invalid argument"
  | nameTooLong => "File name too long"

def bareMessage (e : FileError) : String := s!"[Errno {e.number}] {e.description}"

def message (e : FileError) (path : String) : String := s!"{e.bareMessage}: {Text.quoted path}"

end FileError

inductive PathKind where
  | absent | file | directory
  deriving DecidableEq, Repr

structure FileSystem (m : Type → Type) where
  kind : String → m PathKind
  read : String → m (Except FileError (List UInt8))
  /-- Replaces what the file held. -/
  write : String → String → m (Except FileError Unit)

end Articulation
