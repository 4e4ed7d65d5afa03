import Articulation.Compile.Basic
import Articulation.Description.File
/-!
Compilation of descriptions in files.
-/
set_option autoImplicit false

namespace Articulation

inductive FileCompileFailure where
  | file (failure : FileFailure)
  | failure (failure : Failure)
  deriving Repr

namespace Compiler

def compileFile (c : Compiler) (path : String) (bytes : Except FileError (List UInt8)) :
    Traced FileCompileFailure Compilation := do
  Traced.note .info .compilation s!"Compiling description: {path}"
  let text ← (Traced.ofExcept (fileText path bytes)).mapError .file
  (c.compile text).mapError .failure

end Compiler

end Articulation
