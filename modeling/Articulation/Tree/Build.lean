import Articulation.Tree.Basic
import Articulation.Trace
/-!
The tree that links and joints span. The root is the one link that no joint claims as its child;
the children of a link are created in the order in which their links are listed.
-/
set_option autoImplicit false

namespace Articulation

def unclaimed (links : Roster Link) (joints : Roster Joint) : List String :=
  links.names.filter fun name => !joints.contains name

def findRoot (links : Roster Link) (joints : Roster Joint) : Except DescriptionError String :=
  match unclaimed links joints with
  | [] => .error .noRoot
  | [root] => .ok root
  | first :: second :: others => .error (.severalRoots first second others)

/-- The first joint that hangs in the air: its child is looked for before its parent. -/
def checkJoints (links : Roster Link) : List (String × Joint) → Except DescriptionError Unit
  | [] => .ok ()
  | (child, j) :: js =>
    if !links.contains child then .error (.unknownLink .child child j.name)
    else if !links.contains j.parent then .error (.unknownLink .parent j.parent j.name)
    else checkJoints links js

def edges (links : Roster Link) (joints : Roster Joint) : List (Link × Joint) :=
  links.entries.filterMap fun (child, link) => (joints.find? child).map fun j => (link, j)

def childrenOf (es : List (Link × Joint)) (name : String) : List (Link × Joint) :=
  es.filter fun e => e.2.parent == name

def grow (es : List (Link × Joint)) : Nat → Link → Option Joint → Node
  | 0, link, joint => .mk link joint none []
  | bound + 1, link, joint =>
    .mk link joint none ((childrenOf es link.name).map fun e => grow es bound e.1 (some e.2))

def createdNote (n : Node) : Option Event :=
  n.parentName.map fun parent => .note .debug .tree s!"Created node {n.name} under {parent}"

/-- No path from the root is longer than the number of links, since every link has one parent. -/
def buildTree (links : Roster Link) (joints : Roster Joint) (root robotName : String) :
    Traced DescriptionError Tree := do
  match links.find? root with
  | none => Traced.fail (.unknownRoot root)
  | some link =>
    match joints.find? root with
    | some j => Traced.fail (.rootIsChild root j.name)
    | none =>
      checkJoints links joints.entries
      let tree : Tree := ⟨robotName, grow (edges links joints) links.size link none⟩
      Traced.record (tree.walk.filterMap createdNote)
      let created := tree.names
      match links.names.filter fun name => !created.contains name with
      | first :: others => Traced.fail (.unreachable root first others)
      | [] =>
        Traced.note .info .tree
          s!"Built kinematic tree rooted at {root} with {created.length} nodes"
        pure tree

end Articulation
