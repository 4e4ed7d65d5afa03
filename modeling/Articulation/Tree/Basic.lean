import Articulation.Collision
import Articulation.Description.Basic
/-!
Kinematic trees: links with the joints that lead to them, walked level by level, so that every
parent comes before its children.
-/
set_option autoImplicit false

namespace Articulation

structure CollisionGeometry where
  asset : String
  source : CollisionSource
  deriving DecidableEq, Repr

inductive Node where
  | mk (link : Link) (joint : Option Joint) (collision : Option CollisionGeometry)
    (children : List Node)
  deriving Repr

namespace Node

def link : Node → Link
  | mk link _ _ _ => link

def joint : Node → Option Joint
  | mk _ joint _ _ => joint

def collision : Node → Option CollisionGeometry
  | mk _ _ collision _ => collision

def children : Node → List Node
  | mk _ _ _ children => children

def name (n : Node) : String := n.link.name

def parentName (n : Node) : Option String := n.joint.map (·.parent)

def isRoot (n : Node) : Bool := n.joint.isNone

/-- Levels side by side: the first list's nodes come first on every level. -/
def besideLevels : List (List Node) → List (List Node) → List (List Node)
  | [], bs => bs
  | as, [] => as
  | a :: as, b :: bs => (a ++ b) :: besideLevels as bs

def levelsOf (keep : Node → Bool) : Node → List (List Node)
  | mk l j c children => [mk l j c children] :: levelsOfAll keep children
where
  levelsOfAll (keep : Node → Bool) : List Node → List (List Node)
    | [] => []
    | n :: ns =>
      if keep n then besideLevels (levelsOf keep n) (levelsOfAll keep ns)
      else levelsOfAll keep ns

def levels (n : Node) : List (List Node) := n.levelsOf fun _ => true

def walkKeeping (keep : Node → Bool) (n : Node) : List Node := (n.levelsOf keep).flatten

def walk (n : Node) : List Node := n.levels.flatten

def subtreeHasMesh (n : Node) : Bool := n.walk.any (·.link.hasMesh)

end Node

structure Tree where
  robotName : String
  root : Node
  deriving Repr

namespace Tree

def walk (t : Tree) : List Node := t.root.walk

def size (t : Tree) : Nat := t.walk.length

def names (t : Tree) : List String := t.walk.map Node.name

def find? (t : Tree) (name : String) : Option Node := t.walk.find? (·.name == name)

def contains (t : Tree) (name : String) : Bool := (t.find? name).isSome

/-- The nodes under their names. Of nodes of one name the last one would be listed, in the place of
the first one. -/
def registry (t : Tree) : Roster Node := Roster.ofList (t.walk.map fun n => (n.name, n))

theorem entries_registry {t : Tree} (distinct : t.names.Nodup) :
    t.registry.entries = t.walk.map fun n => (n.name, n) := by
  refine Roster.entries_ofList ?_
  rw [List.map_map]
  exact distinct

def depthWithin (t : Tree) : Nat → Node → Option Nat
  | 0, n => if n.isRoot then some 0 else none
  | bound + 1, n =>
    match n.parentName with
    | none => some 0
    | some parent => (t.find? parent).bind fun p => (depthWithin t bound p).map (· + 1)

/-- The number of joints between the root and the node of that name. -/
def depthOf? (t : Tree) (name : String) : Option Nat :=
  (t.find? name).bind (t.depthWithin t.size)

end Tree

end Articulation
