import Articulation.Tree.Build
/-!
Removal of nodes that are of no account: rigidly attached, nearly massless, and without a mesh in
their subtree. Whatever hangs below such a node goes with it.
-/
set_option autoImplicit false

namespace Articulation

structure PruneRule where
  /-- Nodes of this mass or more are kept. -/
  massThreshold : Float
  /-- Whether nodes are kept whose subtree has a mesh. -/
  requireNoMesh : Bool
  deriving Repr, BEq

def defaultMassThreshold : Float := 0.01

def PruneRule.standard : PruneRule := ⟨defaultMassThreshold, true⟩

namespace Node

def isRedundant (rule : PruneRule) (n : Node) : Bool :=
  match n.joint with
  | none => false
  | some j =>
    j.type == .fixed && !(rule.massThreshold ≤ n.link.mass : Bool) &&
      !(rule.requireNoMesh && n.subtreeHasMesh)

def prune (rule : PruneRule) : Node → Node
  | mk l j c children => mk l j c (pruneAll rule children)
where
  pruneAll (rule : PruneRule) : List Node → List Node
    | [] => []
    | n :: ns =>
      if n.isRedundant rule then pruneAll rule ns else n.prune rule :: pruneAll rule ns

/-- The redundant children of the nodes that stay, in the order in which a walk meets them. -/
def cut (rule : PruneRule) (n : Node) : List Node :=
  (n.walkKeeping fun m => !m.isRedundant rule).flatMap fun m =>
    m.children.filter (·.isRedundant rule)

end Node

def discardNote (n : Node) : Option Event :=
  if n.children.isEmpty then none
  else
    let names := commaSeparated (n.children.map Node.name)
    some (.note .warning .pruning s!"Pruning {n.name} also discards its subtree: {names}")

def prunedNote (n : Node) : Event :=
  .note .debug .pruning s!"Pruned redundant node {n.name}"

def Tree.prune (rule : PruneRule) (t : Tree) : Tree := { t with root := t.root.prune rule }

def pruneEvents (rule : PruneRule) (t : Tree) : List Event :=
  let cut := t.root.cut rule
  let before := t.size
  let removed := before - (t.prune rule).size
  cut.filterMap discardNote ++ cut.map prunedNote ++
    [.note .info .pruning
      s!"Pruned {removed} of {before} nodes (mass < {floatText rule.massThreshold})"]

def pruneTree (rule : PruneRule) (t : Tree) : Traced DescriptionError Tree := do
  Traced.record (pruneEvents rule t)
  pure (t.prune rule)

@[simp] theorem result_pruneTree (rule : PruneRule) (t : Tree) :
    (pruneTree rule t).result = .ok (t.prune rule) := rfl

end Articulation
