import Articulation.Frame
import Articulation.Tree.Prune
/-!
The options of a compilation.
-/
set_option autoImplicit false

namespace Articulation

structure Config where
  upAxis : UpAxis
  immovableRoot : Bool
  prune : Bool
  pruneMassThreshold : Float
  pruneRequireNoMesh : Bool
  collisionSource : CollisionSource
  requireCollision : Bool
  renameRoot : Bool
  deriving Repr, BEq

namespace Config

def standard : Config := ⟨.y, true, true, defaultMassThreshold, true, .engineNative, false, true⟩

def pruneRule (c : Config) : PruneRule := ⟨c.pruneMassThreshold, c.pruneRequireNoMesh⟩

end Config

end Articulation
