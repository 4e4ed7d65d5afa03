import Articulation.Tree.Associate
/-!
Robots as an engine creates them: nodes in an order in which every parent comes before its
children, and the materials that their meshes use.
-/
set_option autoImplicit false

namespace Articulation

structure Visual where
  asset : String
  pose : Pose
  materialName : String
  deriving Repr, BEq

/-- A collision mesh stands where the visual mesh of its node does. -/
structure Collider where
  geometry : CollisionGeometry
  pose : Pose
  deriving Repr

structure NodeEntry where
  name : String
  link : String
  parent : Option String
  pose : Pose
  mass : Float
  centreOfMass : Vec3 Float
  isImmovable : Bool
  isSensorOnly : Bool
  joint : Option Joint
  visual : Option Visual
  collider : Option Collider
  deriving Repr

structure Robot where
  name : String
  nodes : List NodeEntry
  materials : Roster Material
  deriving Repr

namespace Robot

def find? (r : Robot) (name : String) : Option NodeEntry := r.nodes.find? (·.name == name)

end Robot

end Articulation
