import Articulation.AssetPath
/-!
The names under which collision meshes are kept beside the visual meshes they belong to.
-/
set_option autoImplicit false

namespace Articulation

inductive CollisionSource where
  | engineNative | externalDecomposition
  deriving DecidableEq, Repr

namespace CollisionSource

def name : CollisionSource → String
  | engineNative => "engine-native"
  | externalDecomposition => "external-decomposition"

def all : List CollisionSource := [.engineNative, .externalDecomposition]

def ofName? (s : String) : Option CollisionSource := all.find? (·.name == s)

@[simp] theorem ofName?_name (c : CollisionSource) : ofName? c.name = some c := by
  cases c <;> decide

def collisionName (source : CollisionSource) (name : List Char) : List Char :=
  match source with
  | engineNative => AssetPath.stem name ++ ".obj".toList
  | externalDecomposition => AssetPath.stem name ++ "_hull.obj".toList

end CollisionSource

/-- The name of the collision mesh of a visual mesh; a path without a last component has none. -/
def collisionIdentifier? (asset : String) (source : CollisionSource) : Option String :=
  ((AssetPath.ofString asset).withName? source.collisionName).map AssetPath.toString

example : collisionIdentifier? "meshes/arm.dae" .engineNative = some "meshes/arm.obj" ∧
    collisionIdentifier? "./meshes//arm.dae/" .externalDecomposition =
      some "meshes/arm_hull.obj" ∧
    collisionIdentifier? "/" .engineNative = none := by decide +kernel

end Articulation
