import Articulation.Proofs.Geometry
import Articulation.Proofs.Turning
/-!
The choice between the two frames of the engine. The stages of a compilation commute with the shift
from the one to the other, so the axis that is up leaks into nothing but poses: neither into the
errors nor into what is pruned, named or attached.
-/
set_option autoImplicit false

namespace Articulation

open Xml (Element)

namespace Node

theorem ext {m n : Node} (link : m.link = n.link) (joint : m.joint = n.joint)
    (collision : m.collision = n.collision) (children : m.children = n.children) : m = n := by
  cases m
  cases n
  simp_all [Node.link, Node.joint, Node.collision, Node.children]

theorem turnedAll_eq (ns : List Node) : turned.turnedAll ns = ns.map turned := by
  induction ns with
  | nil => rfl
  | cons n ns ih => rw [turned.turnedAll, ih, List.map_cons]

@[simp] theorem link_turned (n : Node) : n.turned.link = n.link.turned := by
  cases n
  rfl

@[simp] theorem joint_turned (n : Node) : n.turned.joint = n.joint.map Joint.turned := by
  cases n
  rfl

@[simp] theorem collision_turned (n : Node) : n.turned.collision = n.collision := by
  cases n
  rfl

@[simp] theorem children_turned (n : Node) : n.turned.children = n.children.map turned := by
  cases n
  exact turnedAll_eq _

@[simp] theorem name_turned (n : Node) : n.turned.name = n.name := by
  cases n
  rfl

theorem hasMesh_turned (n : Node) : n.turned.link.hasMesh = n.link.hasMesh := by
  rw [link_turned]
  rfl

theorem parentName_turned (n : Node) : n.turned.parentName = n.parentName := by
  rw [parentName, joint_turned, Option.map_map]
  rfl

theorem walk_turned (n : Node) : n.turned.walk = n.walk.map turned := by
  have below := forest_map_filter (fun _ => true) turned (fun m => by simp) n.children
  rw [List.filter_true] at below
  rw [walk_eq, walk_eq, children_turned, below, List.map_cons]

theorem isRedundant_turned (rule : PruneRule) (n : Node) :
    n.turned.isRedundant rule = n.isRedundant rule := by
  have mesh : n.turned.subtreeHasMesh = n.subtreeHasMesh := by
    unfold subtreeHasMesh
    rw [walk_turned, List.any_map]
    exact congrArg n.walk.any (funext hasMesh_turned)
  unfold isRedundant
  rw [joint_turned, link_turned, mesh]
  cases n.joint <;> rfl

/-- A change from node to node that does not look at poses commutes with the shift. -/
theorem Thins.turned {keep : Node → Bool} {f : Node → Node} (hf : Thins keep f)
    (kept : ∀ n, keep n.turned = keep n) (collision : ∀ n, (f n.turned).collision = (f n).collision)
    (n : Node) : f n.turned = (f n).turned := by
  induction n using child_induction with
  | step n below =>
    -- the node itself is as the hypotheses say, and the children that stay are nodes below it
    refine ext ?_ ?_ ?_ ?_
    · rw [hf.link, link_turned, link_turned, hf.link]
    · rw [hf.joint, joint_turned, joint_turned, hf.joint]
    · rw [collision, collision_turned]
    · rw [hf.children, children_turned, children_turned, hf.children, List.filter_map,
        List.map_map, List.map_map]
      have same : keep ∘ Node.turned = keep := funext kept
      rw [same]
      exact List.map_congr_left fun m hm => below m (List.mem_of_mem_filter hm)

end Node

namespace Tree

theorem walk_turned (t : Tree) : t.turned.walk = t.walk.map Node.turned := t.root.walk_turned

theorem names_turned (t : Tree) : t.turned.names = t.names := by
  rw [names, walk_turned, List.map_map]
  exact List.map_congr_left fun n _ => n.name_turned

theorem prune_turned (rule : PruneRule) (t : Tree) :
    t.turned.prune rule = (t.prune rule).turned := by
  refine congrArg (Tree.mk t.robotName) ?_
  refine (Node.thins_prune rule).turned (fun n => ?_) (fun n => ?_) t.root
  · rw [Node.isRedundant_turned]
  · rw [Node.collision_prune, Node.collision_prune, Node.collision_turned]

theorem attach_turned (geometry : List (String × CollisionGeometry)) (t : Tree) :
    t.turned.attach geometry = (t.attach geometry).turned := by
  refine congrArg (Tree.mk t.robotName) ?_
  refine (Node.thins_attach geometry).turned (fun _ => rfl) (fun n => ?_) t.root
  rw [Node.collision_attach, Node.collision_attach, Node.name_turned, Node.collision_turned]

end Tree

theorem edges_turned (links : Roster Link) (joints : Roster Joint) :
    edges (links.map Link.turned) (joints.map Joint.turned) =
      (edges links joints).map (Prod.map Link.turned Joint.turned) := by
  unfold edges
  simp only [Roster.find?_map]
  rw [Roster.map, List.filterMap_map, List.map_filterMap]
  refine List.filterMap_congr fun e _ => ?_
  simp only [Function.comp, Option.map_map]
  rfl

theorem grow_turned (es : List (Link × Joint)) (bound : Nat) (l : Link) (j : Option Joint) :
    grow (es.map (Prod.map Link.turned Joint.turned)) bound l.turned (j.map Joint.turned) =
      (grow es bound l j).turned := by
  induction bound generalizing l j with
  | zero => rfl
  | succ bound ih =>
    have hanging : childrenOf (es.map (Prod.map Link.turned Joint.turned)) l.name =
        (childrenOf es l.name).map (Prod.map Link.turned Joint.turned) := List.filter_map
    have name : l.turned.name = l.name := rfl
    simp only [grow, Node.turned, Node.turnedAll_eq, name, hanging, List.map_map]
    refine congrArg _ (List.map_congr_left fun e _ => ?_)
    exact ih e.1 (some e.2)

theorem checkJoints_turned (links : Roster Link) (js : List (String × Joint)) :
    checkJoints (links.map Link.turned) (js.map fun e => (e.1, e.2.turned)) =
      checkJoints links js := by
  induction js with
  | nil => rfl
  | cons e js ih =>
    rw [List.map_cons, checkJoints, ih, Roster.contains_map, Roster.contains_map]
    rfl

theorem buildTree_turned (links : Roster Link) (joints : Roster Joint) (root robotName : String) :
    (buildTree (links.map Link.turned) (joints.map Joint.turned) root robotName).result =
      Tree.turned <$> (buildTree links joints root robotName).result := by
  unfold buildTree
  rw [Roster.find?_map, Roster.find?_map]
  cases links.find? root with
  | none => rfl
  | some l =>
    cases joints.find? root with
    | some j => rfl
    | none =>
      let tree : Tree := ⟨robotName, grow (edges links joints) links.size l none⟩
      have grown : Tree.mk robotName (grow (edges (links.map Link.turned) (joints.map Joint.turned))
          (links.map Link.turned).size l.turned none) = tree.turned := by
        have size : (links.map Link.turned).size = links.size := List.length_map _
        rw [size, edges_turned]
        exact congrArg (Tree.mk robotName) (grow_turned _ _ l none)
      have checked : checkJoints (links.map Link.turned) (joints.map Joint.turned).entries =
          checkJoints links joints.entries := checkJoints_turned links joints.entries
      simp only [Option.map_some, Option.map_none, grown, checked, Tree.names_turned,
        Roster.names_map, Traced.result_bind, Traced.result_liftM, Traced.result_record, ok_bind,
        map_bind]
      refine bind_congr fun _ => ?_
      cases links.names.filter fun name => !tree.names.contains name <;> rfl

theorem Description.linkTree_turned (d : Description) (robotName : String) :
    (d.turned.linkTree robotName).result = Tree.turned <$> (d.linkTree robotName).result := by
  have root : findRoot d.turned.links d.turned.joints = findRoot d.links d.joints := by
    simp [findRoot, unclaimed, turned]
  unfold linkTree
  simp only [Traced.result_bind, Traced.result_liftM, root, map_bind]
  exact bind_congr fun r => buildTree_turned d.links d.joints r robotName

theorem associateNodes_turned {source : CollisionSource} {lookup : Option Lookup} {required : Bool}
    (count : Nat) (ns : List Node) :
    associateNodes source lookup required count (ns.map Node.turned) =
      associateNodes source lookup required count ns := by
  induction ns generalizing count with
  | nil => rfl
  | cons n ns ih =>
    have asset : n.turned.link.asset = n.link.asset := by
      rw [Node.link_turned]
      rfl
    simp only [List.map_cons, associateNodes, Node.hasMesh_turned, asset, Node.name_turned, ih]

namespace Emission

variable (e : Emission)

theorem visualOf_turned (l : Link) : e.visualOf l.turned = (e.visualOf l).map Visual.turned := by
  have shown : e.shown? l.turned = e.shown? l := rfl
  have mesh : l.turned.hasMesh = l.hasMesh := rfl
  unfold visualOf
  rw [shown, mesh]
  split
  next hasMesh =>
    rw [Option.map_map]
    simp only [Link.turned, if_pos hasMesh]
    rfl
  next => rfl

theorem entryOf_turned (t : Tree) {n : Node}
    (solid : n.collision.isSome = true → n.link.hasMesh = true) :
    e.entryOf t.turned n.turned = (e.entryOf t n).turned := by
  have isRoot : n.turned.isRoot = n.isRoot := by
    rw [Node.isRoot, Node.joint_turned, Option.isNone_map]
    rfl
  have label : e.rootLabel t.turned = e.rootLabel t := by
    simp [rootLabel, Tree.turned]
  have root : t.turned.root.name = t.root.name := t.root.name_turned
  have pose : ((n.joint.map Joint.turned).map Joint.origin).getD .identity =
      ((n.joint.map Joint.origin).getD .identity).turned := by
    cases n.joint <;> rfl
  have collider : (n.collision.map fun g => Collider.mk g n.link.turned.meshPose) =
      (n.collision.map fun g => Collider.mk g n.link.meshPose).map Collider.turned := by
    cases found : n.collision with
    | none => rfl
    | some g =>
      rw [found] at solid
      simp [Link.turned, Collider.turned, solid rfl]
  unfold entryOf NodeEntry.turned
  simp only [isRoot, label, root, Node.name_turned, Node.parentName_turned, Node.link_turned,
    Node.joint_turned, Node.collision_turned, pose, collider, visualOf_turned]
  rfl

theorem entries_turned {t : Tree}
    (solid : ∀ n ∈ t.walk, n.collision.isSome = true → n.link.hasMesh = true) :
    t.turned.walk.map (e.entryOf t.turned) = (t.walk.map (e.entryOf t)).map NodeEntry.turned := by
  rw [t.walk_turned, List.map_map, List.map_map]
  exact List.map_congr_left fun n hn => e.entryOf_turned t (solid n hn)

theorem usedMaterials_turned (ns : List NodeEntry) :
    usedMaterials (ns.map NodeEntry.turned) = usedMaterials ns := by
  unfold usedMaterials
  rw [List.filterMap_map]
  refine List.filterMap_congr fun n _ => ?_
  rw [Function.comp, NodeEntry.turned, Option.map_map]
  rfl

end Emission

namespace Compiler

variable {c : Compiler} {t : Tree}

theorem trim_turned (t : Tree) : c.trim t.turned = (c.trim t).turned := by
  unfold trim
  split
  · exact t.prune_turned c.config.pruneRule
  · rfl

theorem attachment_turned (t : Tree) : c.attachment t.turned = c.attachment t := by
  unfold attachment associate
  rw [t.walk_turned, associateNodes_turned]

theorem outcome_turned (ht : t.WellFormed) (plain : ∀ n ∈ t.walk, n.collision = none)
    (materials : Roster Material) :
    c.outcome t.turned materials = (c.outcome t materials).turned := by
  have tree : (c.attachment t.turned).apply t.turned = ((c.attachment t).apply t).turned := by
    rw [attachment_turned]
    exact t.attach_turned _
  have solid (n : Node) (hn : n ∈ ((c.attachment t).apply t).walk) :=
    hasMesh_of_solid ht plain hn
  have nodes := c.emission.entries_turned solid
  unfold outcome
  simp only [tree, nodes, Emission.usedMaterials_turned]
  rfl

theorem finish_turned (ht : t.WellFormed) (plain : ∀ n ∈ t.walk, n.collision = none)
    (materials : Roster Material) :
    c.finish t.turned materials = Compilation.turned <$> c.finish t materials := by
  have lost : (t.turned.walk.map Node.link).find? c.emission.lacks =
      ((t.walk.map Node.link).find? c.emission.lacks).map Link.turned := by
    have links : t.turned.walk.map Node.link = (t.walk.map Node.link).map Link.turned := by
      rw [t.walk_turned, List.map_map, List.map_map]
      exact List.map_congr_left fun n _ => n.link_turned
    rw [links, List.find?_map]
    rfl
  rw [finish_eq, finish_eq, attachment_turned, lost, outcome_turned ht plain]
  cases (c.attachment t).failure with
  | some f => rfl
  | none => cases (t.walk.map Node.link).find? c.emission.lacks <;> rfl

def facing (c : Compiler) (upAxis : UpAxis) : Compiler :=
  { c with config := { c.config with upAxis } }

theorem compileElement_turned (c : Compiler) (root : Element) :
    ((c.facing .y).compileElement root).result =
      Compilation.turned <$> ((c.facing .z).compileElement root).result := by
  have axis (u : UpAxis) : (c.facing u).config.upAxis = u := rfl
  rw [result_compileElement, result_compileElement, axis, axis, Description.ofElement_turned,
    mapError_map, bind_map_left]
  cases accepted : (Description.ofElement .z root).result with
  | error e => rfl
  | ok d =>
    have robotName : d.turned.robotName = d.robotName := rfl
    simp only [Except.mapError, ok_bind, robotName, Description.linkTree_turned]
    cases built : (d.linkTree d.robotName).result with
    | error e => rfl
    | ok t =>
      have hd := Description.consistent_of_ofElement accepted
      have plain : ∀ n ∈ t.walk, n.collision = none := by
        obtain ⟨below, _, _, rfl⟩ := hd.linkTree_ok built
        exact fun n hn => Description.collision_treeBelow d d.robotName below hn
      -- what is finished with y up is the shifted tree, which is trimmed as the other one is
      have trimmed : (c.trim t).WellFormed := wellFormed_trim (hd.wellFormed_linkTree built)
      have finished := finish_turned (c := c) trimmed (fun n hn => collision_trim plain hn)
        d.materials
      rw [← trim_turned] at finished
      exact finished

/-- With the one axis up or the other the same texts are refused, for the same reasons, and the
robots are the same but for their poses. -/
theorem compile_upAxis (c : Compiler) (text : String) :
    (∃ f, ((c.facing .y).compile text).result = .error f ∧
      ((c.facing .z).compile text).result = .error f) ∨
    ∃ y z, ((c.facing .y).compile text).result = .ok y ∧
      ((c.facing .z).compile text).result = .ok z ∧ y.robot = z.robot.turned := by
  rw [compile_eq_compileElement, compile_eq_compileElement]
  cases Xml.read text with
  | error e => exact .inl ⟨_, rfl, rfl⟩
  | ok root =>
    simp only [compileElement_turned]
    cases ((c.facing .z).compileElement root).result with
    | error f => exact .inl ⟨f, rfl, rfl⟩
    | ok made => exact .inr ⟨made.turned, made, rfl, rfl, rfl⟩

end Compiler

end Articulation
