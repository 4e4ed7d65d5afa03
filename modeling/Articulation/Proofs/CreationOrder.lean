import Articulation.Proofs.Acceptance
import Articulation.Proofs.Geometry
import Articulation.Proofs.Names
/-!
The order in which the nodes of a robot are created. Growing, pruning and walking a tree each keep
the children of a node in the order of their declaration, and that is all it takes: whatever has its
children so ordered is walked by depth, then by parents, then by declaration.
-/
set_option autoImplicit false

namespace Articulation

open Xml (Element)
open Description (linkNames)

namespace Node

section Layers

variable {w : List Node} {depth : Node → Nat → Prop} {R : Node → Node → Prop}
  (below : ∀ p ∈ w, ∀ k, depth p k → ∀ c ∈ p.children, depth c (k + 1))

include below

theorem depth_of_mem_forest (ns : List Node) {k : Nat} (within : ∀ n ∈ forest ns, n ∈ w)
    (here : ∀ n ∈ ns, depth n k) : ∀ n ∈ forest ns, ∃ l, k ≤ l ∧ depth n l := by
  induction ns using forest_induction generalizing k with
  | nil => simp
  | step ns ih =>
    rw [forest_eq] at within ⊢
    intro n hn
    rcases List.mem_append.1 hn with top | deep
    · exact ⟨k, Nat.le_refl k, here n top⟩
    · have next : ∀ c ∈ ns.flatMap children, depth c (k + 1) := by
        intro c hc
        obtain ⟨p, hp, child⟩ := List.mem_flatMap.1 hc
        exact below p (within p (List.mem_append_left _ hp)) k (here p hp) c child
      obtain ⟨l, hl, reached⟩ := ih (fun m hm => within m (List.mem_append_right _ hm)) next n deep
      exact ⟨l, by omega, reached⟩

/-- A forest is walked in the order of `R` if `R` puts nodes behind those that are less deep, the
children of a node as they are listed, and other nodes of one depth as their parents are walked. -/
theorem forest_pairwise
    (deeper : ∀ m n k l, depth m k → depth n l → k < l → R m n)
    (cousins : ∀ p q k, [p, q].Sublist w → depth p k → depth q k →
      ∀ m ∈ p.children, ∀ n ∈ q.children, R m n)
    (siblings : ∀ p ∈ w, p.children.Pairwise R) (ns : List Node) {k : Nat}
    (within : (forest ns).Sublist w) (here : ∀ n ∈ ns, depth n k) (ordered : ns.Pairwise R) :
    (forest ns).Pairwise R := by
  induction ns using forest_induction generalizing k with
  | nil => exact List.Pairwise.nil
  | step ns ih =>
    rw [forest_eq] at within ⊢
    have top : ns.Sublist w := (List.sublist_append_left _ _).trans within
    have rest : (forest (ns.flatMap children)).Sublist w :=
      (List.sublist_append_right _ _).trans within
    have next : ∀ c ∈ ns.flatMap children, depth c (k + 1) := by
      intro c hc
      obtain ⟨p, hp, child⟩ := List.mem_flatMap.1 hc
      exact below p (top.subset hp) k (here p hp) c child
    have generation : (ns.flatMap children).Pairwise R := by
      refine List.pairwise_flatMap.2 ⟨fun p hp => siblings p (top.subset hp), ?_⟩
      refine List.pairwise_iff_forall_sublist.2 fun {p q} pair m hm n hn => ?_
      have hp : p ∈ ns := pair.subset (by simp)
      have hq : q ∈ ns := pair.subset (by simp)
      exact cousins p q k (pair.trans top) (here p hp) (here q hq) m hm n hn
    refine List.pairwise_append.2 ⟨ordered, ih rest next generation, fun m hm n hn => ?_⟩
    obtain ⟨l, hl, reached⟩ :=
      depth_of_mem_forest below (ns.flatMap children) (fun n hn => rest.subset hn) next n hn
    exact deeper m n k l (here m hm) reached (by omega)

end Layers

end Node

theorem Tree.walk_eq_forest (t : Tree) : t.walk = Node.forest [t.root] := by
  rw [Node.forest_eq, List.flatMap_singleton, List.singleton_append]
  exact t.walk_eq

namespace Robot

inductive Depth (r : Robot) : NodeEntry → Nat → Prop where
  | root {n : NodeEntry} (listed : n ∈ r.nodes) (free : n.joint = none) : Depth r n 0
  | child {n p : NodeEntry} {j : Joint} {k : Nat} (listed : n ∈ r.nodes) (joint : n.joint = some j)
      (parent : p.link = j.parent) (above : Depth r p k) : Depth r n (k + 1)

/-- Why the one node is created before the other; `declared` are the names of the links as a
document declares them. -/
inductive Precedes (r : Robot) (declared : List String) (m n : NodeEntry) : Prop where
  | depth {k l : Nat} (hm : r.Depth m k) (hn : r.Depth n l) (deeper : k < l)
  | parents {p q : NodeEntry} {i j : Joint} {k : Nat} (hm : r.Depth m k) (hn : r.Depth n k)
      (left : m.joint = some i) (right : n.joint = some j) (above_left : p.link = i.parent)
      (above_right : q.link = j.parent) (order : [p, q].Sublist r.nodes)
  | siblings {i j : Joint} (left : m.joint = some i) (right : n.joint = some j)
      (same : i.parent = j.parent) (order : [m.link, n.link].Sublist declared)

structure InCreationOrder (r : Robot) (declared : List String) : Prop where
  distinct : (r.nodes.map (·.link)).Nodup
  parents : ∀ before n after, r.nodes = before ++ n :: after → ∀ j, n.joint = some j →
    ∃ p ∈ before, p.link = j.parent
  depth : ∀ n ∈ r.nodes, ∃! k, r.Depth n k
  order : r.nodes.Pairwise (r.Precedes declared)

variable {r : Robot}

theorem Depth.mem {n : NodeEntry} {k : Nat} (h : r.Depth n k) : n ∈ r.nodes := by
  cases h <;> assumption

theorem Depth.unique (distinct : (r.nodes.map (·.link)).Nodup) {n : NodeEntry} {k l : Nat}
    (hk : r.Depth n k) (hl : r.Depth n l) : k = l := by
  induction hk generalizing l with
  | root listed free =>
    cases hl with
    | root => rfl
    | child _ joint _ _ =>
      rw [free] at joint
      contradiction
  | child listed joint parent above ih =>
    cases hl with
    | root _ free =>
      rw [free] at joint
      contradiction
    | child _ joint' parent' above' =>
      obtain rfl := Option.some.inj (joint.symm.trans joint')
      have same := List.inj_on_of_nodup_map distinct above.mem above'.mem
        (parent.trans parent'.symm)
      subst same
      rw [ih above']

end Robot

namespace Tree

variable {t : Tree} {r : Robot} {e : Emission} {declared : List String} (ht : t.WellFormed)

include ht

theorem WellFormed.joint_child {p c : Node} (hp : p ∈ t.walk) (hc : c ∈ p.children) :
    ∃ j, c.joint = some j ∧ p.name = j.parent := by
  obtain ⟨j, joint, parent⟩ := Option.map_eq_some_iff.1 (ht.parents p hp c hc)
  exact ⟨j, joint, parent.symm⟩

variable (nodes : r.nodes = t.walk.map (e.entryOf t))

include nodes

theorem depth_root : ∀ n ∈ [t.root], r.Depth (e.entryOf t n) 0 := by
  rw [List.forall_mem_singleton]
  refine .root ?_ ht.root_free
  rw [nodes]
  exact List.mem_map_of_mem (Node.self_mem_walk t.root)

theorem depth_child : ∀ p ∈ t.walk, ∀ k, r.Depth (e.entryOf t p) k →
    ∀ c ∈ p.children, r.Depth (e.entryOf t c) (k + 1) := by
  intro p hp k above c hc
  obtain ⟨j, joint, parent⟩ := ht.joint_child hp hc
  refine .child ?_ joint parent above
  rw [nodes]
  exact List.mem_map_of_mem (Node.walk_closed hp hc)

theorem depth_entry {n : NodeEntry} (hn : n ∈ r.nodes) : ∃ k, r.Depth n k := by
  rw [nodes] at hn
  obtain ⟨m, hm, rfl⟩ := List.mem_map.1 hn
  rw [walk_eq_forest] at hm
  obtain ⟨k, -, reached⟩ := Node.depth_of_mem_forest (depth_child ht nodes) [t.root]
    (fun n hn => by rwa [walk_eq_forest]) (depth_root ht nodes) m hm
  exact ⟨k, reached⟩

theorem pairwise_precedes
    (siblings : ∀ n ∈ t.walk, (n.children.map Node.name).Sublist declared) :
    r.nodes.Pairwise (r.Precedes declared) := by
  have below := depth_child ht nodes
  have whole : (Node.forest [t.root]).Sublist t.walk := by rw [walk_eq_forest]
  rw [nodes, List.pairwise_map, walk_eq_forest]
  refine Node.forest_pairwise below ?deeper ?cousins ?siblings [t.root] whole
    (depth_root ht nodes) (List.pairwise_singleton _ _)
  case deeper => exact fun m n k l hm hn deeper => .depth hm hn deeper
  case cousins =>
    intro p q k pair hp hq m hm n hn
    have listed : p ∈ t.walk ∧ q ∈ t.walk := ⟨pair.subset (by simp), pair.subset (by simp)⟩
    obtain ⟨i, left, above_left⟩ := ht.joint_child listed.1 hm
    obtain ⟨j, right, above_right⟩ := ht.joint_child listed.2 hn
    have order := pair.map (e.entryOf t)
    rw [← nodes] at order
    exact .parents (below p listed.1 k hp m hm) (below q listed.2 k hq n hn) left right
      above_left above_right order
  case siblings =>
    intro p hp
    refine List.pairwise_iff_forall_sublist.2 fun {m n} pair => ?_
    obtain ⟨i, left, above_left⟩ := ht.joint_child hp (pair.subset List.mem_cons_self)
    obtain ⟨j, right, above_right⟩ := ht.joint_child hp (pair.subset (by simp : n ∈ [m, n]))
    exact .siblings left right (above_left.symm.trans above_right)
      ((pair.map Node.name).trans (siblings p hp))

theorem inCreationOrder (siblings : ∀ n ∈ t.walk, (n.children.map Node.name).Sublist declared) :
    r.InCreationOrder declared := by
  have distinct : (r.nodes.map (·.link)).Nodup := by
    rw [nodes, List.map_map]
    exact ht.distinct
  constructor
  · exact distinct
  · intro before n after split j joint
    exact Compiler.parent_before_entry e ht (nodes.symm.trans split) joint
  · intro n hn
    obtain ⟨k, reached⟩ := depth_entry ht nodes hn
    exact ⟨k, reached, fun l reached' => reached'.unique distinct reached⟩
  · exact pairwise_precedes ht nodes siblings

end Tree

theorem Emission.visual_of_collider {e : Emission} {t : Tree} {n : Node}
    (shown : e.lacks n.link = false) (solid : n.collision.isSome = true → n.link.hasMesh = true)
    {g : Collider} (collider : (e.entryOf t n).collider = some g) :
    ∃ v, (e.entryOf t n).visual = some v ∧ v.pose = g.pose := by
  obtain ⟨geometry, found, rfl⟩ := Option.map_eq_some_iff.1 collider
  have hasMesh : n.link.hasMesh = true := solid (by rw [found]; rfl)
  have visible : (e.visualOf n.link).isSome = true := by rw [e.isSome_visualOf shown, hasMesh]
  obtain ⟨v, visual⟩ := Option.isSome_iff_exists.1 visible
  refine ⟨v, visual, ?_⟩
  rw [visualOf, if_pos hasMesh] at visual
  obtain ⟨asset, -, rfl⟩ := Option.map_eq_some_iff.1 visual
  rfl

namespace Compiler

variable {c : Compiler} {text : String} {made : Compilation}

/-- What the nodes of a robot have to do with the links of a document. -/
structure Creates (c : Compiler) (root : Element) (d : Description) (made : Compilation) : Prop where
  tree : (c.tree d).result = .ok made.tree
  unclaimed : d.unclaimedLinks = [made.tree.root.name]
  declared : (linkNames root).Nodup
  links : ∀ name, (∃ n ∈ made.robot.nodes, n.link = name) ↔ made.tree.contains name = true
  first : ∃ n others, made.robot.nodes = n :: others ∧ n.link = made.tree.root.name ∧
    n.parent = none ∧ n.joint = none ∧ n.isImmovable = c.config.immovableRoot ∧
    ∀ m ∈ others, m.parent.isSome = true ∧ m.joint.isSome = true ∧ m.isImmovable = false
  order : made.robot.InCreationOrder (linkNames root)
  joint : ∀ n ∈ made.robot.nodes, ∀ j, n.joint = some j → j ∈ d.joints.values ∧ j.child = n.link
  visual : ∀ n ∈ made.robot.nodes, ∃ l ∈ d.links.values, l.name = n.link ∧
    n.visual.isSome = l.hasMesh
  collider : ∀ n ∈ made.robot.nodes, ∀ g, n.collider = some g →
    ∃ v, n.visual = some v ∧ v.pose = g.pose

theorem first_entry {t : Tree} (ht : t.WellFormed) (e : Emission) :
    ∃ n others, t.walk.map (e.entryOf t) = n :: others ∧ n.link = t.root.name ∧
      n.parent = none ∧ n.joint = none ∧ n.isImmovable = e.immovableRoot ∧
      ∀ m ∈ others, m.parent.isSome = true ∧ m.joint.isSome = true ∧ m.isImmovable = false := by
  have free : t.root.joint = none := ht.root_free
  refine ⟨e.entryOf t t.root, t.below.map (e.entryOf t), by rw [t.walk_eq, List.map_cons], rfl,
    ?_, free, ?_, ?_⟩
  · simp [Emission.entryOf, Node.parentName, free]
  · simp [Emission.entryOf, Node.isRoot, free]
  · intro m hm
    obtain ⟨n, hn, rfl⟩ := List.mem_map.1 hm
    have hung := ht.not_isRoot hn
    rw [Node.isRoot, Option.isNone_eq_false_iff] at hung
    obtain ⟨j, joint⟩ := Option.isSome_iff_exists.1 hung
    simp [Emission.entryOf, Node.parentName, Node.isRoot, joint]

theorem finish_shown {t : Tree} {materials : Roster Material}
    (h : c.finish t materials = .ok made) {n : Node} (hn : n ∈ t.walk) :
    c.emission.lacks n.link = false := by
  rw [finish_eq] at h
  split at h
  next => contradiction
  next => contradiction
  next none_lost => simpa using List.find?_eq_none.1 none_lost n.link (List.mem_map_of_mem hn)

theorem compile_solid (h : (c.compile text).result = .ok made) {n : Node}
    (hn : n ∈ made.tree.walk) :
    c.emission.lacks n.link = false ∧ (n.collision.isSome = true → n.link.hasMesh = true) := by
  obtain ⟨d, t, accepted, built, finished⟩ := compile_ok h
  have hd := Description.consistent_of_ofText accepted
  have plain := hd.collision_linkTree built
  have trimmed := wellFormed_trim (c := c) (hd.wellFormed_linkTree built)
  rw [finish_ok finished] at hn
  constructor
  · obtain ⟨m, hm, rfl⟩ := (Node.thins_attach _).exists_of_mem_walk hn
    rw [(Node.thins_attach _).link]
    exact finish_shown finished hm
  · exact hasMesh_of_solid trimmed (fun n hn => collision_trim plain hn) hn

theorem compile_tree (h : (c.compile text).result = .ok made) {d : Description}
    (accepted : (Description.ofText c.config.upAxis text).result = .ok d) :
    (c.tree d).result = .ok made.tree := by
  unfold compile at h
  simp only [Traced.result_bind, Traced.result_mapError, Traced.result_pure] at h
  obtain ⟨d', accepted', h⟩ := bind_eq_ok.1 h
  obtain rfl : d = d' := Except.ok.inj (accepted.symm.trans (mapError_eq_ok.1 accepted'))
  obtain ⟨tree, grown, h⟩ := bind_eq_ok.1 h
  obtain ⟨robot, -, h⟩ := bind_eq_ok.1 h
  cases h
  exact grown

/-- The nodes of a robot are the links of the final tree, in an order in which an engine can create
them: by depth, then as their parents are ordered, then as the document declares them. -/
theorem compile_creates (h : (c.compile text).result = .ok made) :
    ∃ root d, Xml.read text = .ok root ∧
      (Description.ofElement c.config.upAxis root).result = .ok d ∧ c.Creates root d made := by
  obtain ⟨ht, -, nodes⟩ := compile_nodes h
  obtain ⟨root, d, read, described, drawn, -⟩ := compile_described h
  have declared := Description.linkNames_eq described
  have accepted : (Description.ofText c.config.upAxis text).result = .ok d := by
    rw [Description.ofText, read]
    exact described
  refine ⟨root, d, read, described, ?_⟩
  have each {p : NodeEntry → Prop} (h : ∀ n ∈ made.tree.walk, p (c.emission.entryOf made.tree n)) :
      ∀ n ∈ made.robot.nodes, p n := by
    rw [nodes]
    exact List.forall_mem_map.2 h
  constructor
  · exact compile_tree h accepted
  · exact drawn.root
  · rw [declared]
    exact (Description.consistent_of_ofElement described).links_nodup
  · intro name
    simp [nodes, Tree.contains, Tree.find?, Emission.entryOf]
  · rw [nodes]
    exact first_entry ht c.emission
  · refine Tree.inCreationOrder ht nodes fun n hn => ?_
    rw [declared]
    exact drawn.siblings n hn
  · exact each fun n hn j joint => (drawn.claims n hn j).1 joint
  · refine each fun n hn => ⟨n.link, drawn.links n hn, rfl, ?_⟩
    exact c.emission.isSome_visualOf (compile_solid h hn).1
  · refine each fun n hn g collider => ?_
    obtain ⟨shown, solid⟩ := compile_solid h hn
    exact Emission.visual_of_collider shown solid collider

/-- The joint of the tag comes first in the text, but the arm is declared before the tag. -/
theorem compile_creates_cell : ∃ made,
    (compile ⟨{ Config.standard with prune := false }, none, none⟩
      Description.cellText).result = .ok made ∧
      made.robot.nodes.map (fun n => (n.link, n.parent)) =
        [("base", none), ("arm", some "cell"), ("tag", some "cell")] ∧
      ∃ root d, Xml.read Description.cellText = .ok root ∧
        (Description.ofElement .y root).result = .ok d ∧
        Creates ⟨{ Config.standard with prune := false }, none, none⟩ root d made := by
  have outcome : (compile ⟨{ Config.standard with prune := false }, none, none⟩
      Description.cellText).result.toOption.map
        (fun made => made.robot.nodes.map fun n => (n.link, n.parent)) =
          some [("base", none), ("arm", some "cell"), ("tag", some "cell")] := by
    rw [compile_of_read Description.read_cellText]
    decide +kernel
  obtain ⟨made, h, links⟩ := exists_ok_of_map outcome
  exact ⟨made, h, links, compile_creates h⟩

end Compiler

end Articulation
