import Articulation.Tree.Prune
/-!
Collision meshes for the nodes that have a visual mesh. A lookup tells which collision meshes there
are; without one every name that the convention gives is taken to be there.
-/
set_option autoImplicit false

namespace Articulation

abbrev Lookup := String → Option String

/-- Why a tree cannot be turned into a robot. A mesh whose path has no last component is refused
when a description is read, so only trees made in other ways have one. -/
inductive Failure where
  | description (cause : DescriptionError)
  | namelessAsset (asset : String)
  deriving Repr

/-- The outcome of an association: also on a failure the nodes that came before it are changed. -/
structure Association where
  attached : List (String × CollisionGeometry)
  events : List Event
  failure : Option Failure

def Association.prepend (a : Association) (events : List Event)
    (attached : List (String × CollisionGeometry)) : Association :=
  { a with events := events ++ a.events, attached := attached ++ a.attached }

def attachedNote (asset name : String) : Event :=
  .note .debug .collision s!"Attached collision {asset} to {name}"

def absentNote (identifier name : String) : Event :=
  .note .warning .collision
    s!"No collision asset '{identifier}' for {name}, link has no colliders"

def associateNodes (source : CollisionSource) (lookup : Option Lookup) (required : Bool) :
    Nat → List Node → Association
  | count, [] =>
    ⟨[], [.note .info .collision
      s!"Attached collision geometry to {count} nodes ({source.name})"], none⟩
  | count, n :: ns =>
    if !n.link.hasMesh then associateNodes source lookup required count ns
    else
      match collisionIdentifier? n.link.asset source with
      | none => ⟨[], [], some (.namelessAsset n.link.asset)⟩
      | some identifier =>
        let (query, found) := match lookup with
          | none => ([], some identifier)
          | some find => ([.collisionQuery identifier], find identifier)
        match found with
        | some asset =>
          (associateNodes source lookup required (count + 1) ns).prepend
            (query ++ [attachedNote asset n.name]) [(n.name, ⟨asset, source⟩)]
        | none =>
          if required then
            ⟨[], query, some (.description (.missingCollision identifier n.name))⟩
          else
            (associateNodes source lookup required count ns).prepend
              (query ++ [absentNote identifier n.name]) []

namespace Node

/-- The collision geometry listed for a node replaces what it had; a node that is not listed keeps
what it had. -/
def attach (geometry : List (String × CollisionGeometry)) : Node → Node
  | mk l j c children =>
    mk l j ((geometry.lookup l.name).or c) (attachAll geometry children)
where
  attachAll (geometry : List (String × CollisionGeometry)) : List Node → List Node
    | [] => []
    | n :: ns => n.attach geometry :: attachAll geometry ns

end Node

def Tree.attach (geometry : List (String × CollisionGeometry)) (t : Tree) : Tree :=
  { t with root := t.root.attach geometry }

def associate (source : CollisionSource) (lookup : Option Lookup) (required : Bool) (t : Tree) :
    Association :=
  associateNodes source lookup required 0 t.walk

def Association.apply (a : Association) (t : Tree) : Tree := t.attach a.attached

def associateCollisions (source : CollisionSource) (lookup : Option Lookup) (required : Bool)
    (t : Tree) : Traced Failure Tree :=
  let a := associate source lookup required t
  ⟨a.events, match a.failure with
    | some f => .error f
    | none => .ok (a.apply t)⟩

end Articulation
