import Articulation.Config.Basic
import Articulation.Description.Reading
import Articulation.Robot.Emit
/-!
The whole way from the text of a description to a robot: find the root, build the tree, prune it,
attach collision meshes, list the nodes. Whatever goes wrong on the way ends the compilation.
-/
set_option autoImplicit false

namespace Articulation

structure Compiler where
  config : Config
  collisionLookup : Option Lookup
  meshLookup : Option Lookup

structure Compilation where
  tree : Tree
  robot : Robot
  deriving Repr

namespace Compiler

def emission (c : Compiler) : Emission := ⟨c.config.renameRoot, c.config.immovableRoot, c.meshLookup⟩

def plainTree (c : Compiler) (d : Description) : Traced DescriptionError Tree := do
  let root ← findRoot d.links d.joints
  Traced.note .info .compilation s!"Root link: {root}"
  let tree ← buildTree d.links d.joints root d.robotName
  if c.config.prune then pruneTree c.config.pruneRule tree else pure tree

def tree (c : Compiler) (d : Description) : Traced Failure Tree := do
  let tree ← (c.plainTree d).mapError .description
  associateCollisions c.config.collisionSource c.collisionLookup c.config.requireCollision tree

def robot (c : Compiler) (t : Tree) (materials : Roster Material) : Traced Failure Robot :=
  (c.emission.robot t materials).mapError .description

def compile (c : Compiler) (text : String) : Traced Failure Compilation := do
  let d ← (Description.ofText c.config.upAxis text).mapError .description
  let tree ← c.tree d
  let robot ← c.robot tree d.materials
  pure ⟨tree, robot⟩

def failureNote (e : DescriptionError) : Event :=
  .note .error .compilation s!"Compilation failed ({e.kind.name}): {e.message}"

/-- A computation with errors of the description as results of its own, of which it makes a note;
only a failure of another kind is left. -/
def reporting {α : Type} (t : Traced Failure α) : Traced Failure (Except DescriptionError α) :=
  match t.result with
  | .ok a => ⟨t.events, .ok (.ok a)⟩
  | .error (.description e) => ⟨t.events ++ [failureNote e], .ok (.error e)⟩
  | .error f => ⟨t.events, .error f⟩

def compileSafely (c : Compiler) (text : String) :
    Traced Failure (Except DescriptionError Compilation) :=
  reporting do
    let d ← (Description.ofText c.config.upAxis text).mapError .description
    let tree ← c.tree d
    let robot ← c.robot tree d.materials
    pure ⟨tree, robot⟩

end Compiler

end Articulation
