import Articulation.Proofs.LinkTree
import Articulation.Tree.Associate
/-!
Trees on their way from the growth to the emission. Pruning and attaching both go from node to node
and leave links and joints alone, so a walk afterwards is the image of a walk before, or of a part
of it, and a tree in which parents are named rightly stays one.
-/
set_option autoImplicit false

namespace Articulation

namespace Node

/-- A change that goes from node to node and drops some of the children. -/
structure Thins (keep : Node → Bool) (f : Node → Node) : Prop where
  link : ∀ n, (f n).link = n.link
  joint : ∀ n, (f n).joint = n.joint
  children : ∀ n, (f n).children = (n.children.filter keep).map f

namespace Thins

variable {keep : Node → Bool} {f : Node → Node}

theorem name (h : Thins keep f) (n : Node) : (f n).name = n.name := congrArg Link.name (h.link n)

theorem parentName (h : Thins keep f) (n : Node) : (f n).parentName = n.parentName :=
  congrArg (Option.map Joint.parent) (h.joint n)

theorem walk (h : Thins keep f) (n : Node) : (f n).walk = (n.walkKeeping keep).map f := by
  rw [walk_eq, h.children, forest_map_filter keep f h.children, walkKeeping_eq, List.map_cons]

end Thins

theorem walkKeeping_sublist (keep : Node → Bool) (n : Node) :
    (n.walkKeeping keep).Sublist n.walk := by
  rw [walkKeeping_eq, walk_eq]
  exact (walkAll_sublist_forest keep _ _ (List.Sublist.refl _)).cons_cons n

theorem Thins.exists_of_mem_walk {keep : Node → Bool} {f : Node → Node} (h : Thins keep f)
    {m n : Node} (hn : n ∈ (f m).walk) : ∃ k ∈ m.walk, n = f k := by
  rw [h.walk] at hn
  obtain ⟨k, hk, rfl⟩ := List.mem_map.1 hn
  exact ⟨k, (walkKeeping_sublist keep m).subset hk, rfl⟩

theorem pruneAll_eq (rule : PruneRule) (ns : List Node) :
    prune.pruneAll rule ns = (ns.filter fun n => !n.isRedundant rule).map (prune rule) := by
  induction ns with
  | nil => rfl
  | cons n ns ih => cases h : n.isRedundant rule <;> simp [prune.pruneAll, h, ih]

theorem thins_prune (rule : PruneRule) :
    Thins (fun n => !n.isRedundant rule) (prune rule) where
  link n := by cases n; rfl
  joint n := by cases n; rfl
  children n := by
    obtain ⟨l, j, c, ns⟩ := n
    exact pruneAll_eq rule ns

theorem collision_prune (rule : PruneRule) (n : Node) : (n.prune rule).collision = n.collision := by
  cases n
  rfl

variable (geometry : List (String × CollisionGeometry))

theorem attachAll_eq (ns : List Node) :
    attach.attachAll geometry ns = ns.map (attach geometry) := by
  induction ns with
  | nil => rfl
  | cons n ns ih => simp [attach.attachAll, ih]

theorem thins_attach : Thins (fun _ => true) (attach geometry) where
  link n := by cases n; rfl
  joint n := by cases n; rfl
  children n := by
    obtain ⟨l, j, c, ns⟩ := n
    rw [List.filter_true]
    exact attachAll_eq geometry ns

theorem collision_attach (n : Node) :
    (n.attach geometry).collision = (geometry.lookup n.name).or n.collision := by
  cases n
  rfl

end Node

namespace Tree

variable {t : Tree}

theorem walk_attach (geometry : List (String × CollisionGeometry)) (t : Tree) :
    (t.attach geometry).walk = t.walk.map (Node.attach geometry) :=
  (Node.thins_attach geometry).walk t.root

theorem links_attach (geometry : List (String × CollisionGeometry)) (t : Tree) :
    (t.attach geometry).walk.map Node.link = t.walk.map Node.link := by
  rw [walk_attach, List.map_map]
  exact List.map_congr_left fun n _ => (Node.thins_attach geometry).link n

/-- What a tree of accepted records keeps up to its emission. -/
structure WellFormed (t : Tree) : Prop where
  root_free : t.root.joint = none
  parents : ∀ n ∈ t.walk, ∀ c ∈ n.children, c.parentName = some n.name
  distinct : t.names.Nodup
  mesh_named : ∀ n ∈ t.walk, n.link.MeshNamed

theorem names_thin_sublist {keep : Node → Bool} {f : Node → Node} (hf : Node.Thins keep f)
    (t : Tree) : (Tree.names { t with root := f t.root }).Sublist t.names := by
  have names : (t.root.walkKeeping keep).map (Node.name ∘ f) =
      (t.root.walkKeeping keep).map Node.name := List.map_congr_left fun n _ => hf.name n
  rw [Tree.names, Tree.walk, hf.walk, List.map_map, names]
  exact (Node.walkKeeping_sublist keep t.root).map Node.name

theorem WellFormed.thin (ht : t.WellFormed) {keep : Node → Bool} {f : Node → Node}
    (hf : Node.Thins keep f) : WellFormed { t with root := f t.root } := by
  have part := Node.walkKeeping_sublist keep t.root
  constructor
  · exact (hf.joint t.root).trans ht.root_free
  · intro n hn c hc
    rw [Tree.walk, hf.walk] at hn
    obtain ⟨m, hm, rfl⟩ := List.mem_map.1 hn
    rw [hf.children] at hc
    obtain ⟨b, hb, rfl⟩ := List.mem_map.1 hc
    rw [hf.parentName, hf.name]
    exact ht.parents m (part.subset hm) b (List.mem_of_mem_filter hb)
  · exact ht.distinct.sublist (names_thin_sublist hf t)
  · intro n hn
    rw [Tree.walk, hf.walk] at hn
    obtain ⟨m, hm, rfl⟩ := List.mem_map.1 hn
    rw [hf.link]
    exact ht.mesh_named m (part.subset hm)

theorem WellFormed.prune (ht : t.WellFormed) (rule : PruneRule) : (t.prune rule).WellFormed :=
  ht.thin (Node.thins_prune rule)

theorem WellFormed.attach (ht : t.WellFormed) (geometry : List (String × CollisionGeometry)) :
    (t.attach geometry).WellFormed :=
  ht.thin (Node.thins_attach geometry)

/-- What a tree keeps of the records that it has grown from. -/
structure DrawnFrom (t : Tree) (d : Description) : Prop where
  root : d.unclaimedLinks = [t.root.name]
  links : ∀ n ∈ t.walk, n.link ∈ d.links.values
  claims : ∀ n ∈ t.walk, ∀ j, n.joint = some j ↔ j ∈ d.joints.values ∧ j.child = n.name
  siblings : ∀ n ∈ t.walk, (n.children.map Node.name).Sublist d.links.names

theorem DrawnFrom.thin {d : Description} (ht : t.DrawnFrom d) {keep : Node → Bool}
    {f : Node → Node} (hf : Node.Thins keep f) : DrawnFrom { t with root := f t.root } d := by
  constructor
  · rw [ht.root, hf.name]
  · intro n hn
    obtain ⟨m, hm, rfl⟩ := hf.exists_of_mem_walk hn
    rw [hf.link]
    exact ht.links m hm
  · intro n hn j
    obtain ⟨m, hm, rfl⟩ := hf.exists_of_mem_walk hn
    rw [hf.joint, hf.name]
    exact ht.claims m hm j
  · intro n hn
    obtain ⟨m, hm, rfl⟩ := hf.exists_of_mem_walk hn
    have names : ((f m).children.map Node.name) = (m.children.filter keep).map Node.name := by
      rw [hf.children, List.map_map]
      exact List.map_congr_left fun c _ => hf.name c
    rw [names]
    exact (List.filter_sublist.map Node.name).trans (ht.siblings m hm)

theorem WellFormed.parent_before (ht : t.WellFormed) {n : Node} {before after : List Node}
    (h : t.walk = before ++ n :: after) :
    (before = [] ∧ n = t.root) ∨ ∃ p ∈ before, n.parentName = some p.name := by
  have walked : t.walk = t.root :: Node.forest t.root.children := Node.walk_eq t.root
  cases before with
  | nil =>
    rw [walked, List.nil_append] at h
    exact .inl ⟨rfl, (List.cons.inj h).1.symm⟩
  | cons m before =>
    have first : t.root = m := by
      rw [walked, List.cons_append] at h
      exact (List.cons.inj h).1
    subst first
    obtain ⟨p, hp, child⟩ := Node.walk_parent_before h
    have listed : p ∈ t.walk := by
      rw [h]
      exact List.mem_append_left _ hp
    exact .inr ⟨p, hp, ht.parents p listed n child⟩

theorem WellFormed.isRoot_iff (ht : t.WellFormed) {n : Node} (hn : n ∈ t.walk) :
    n.isRoot = true ↔ n = t.root := by
  constructor
  · intro free
    obtain ⟨before, after, h⟩ := List.append_of_mem hn
    rcases ht.parent_before h with ⟨_, top⟩ | ⟨p, _, parent⟩
    · exact top
    · rw [Node.isRoot, Option.isNone_iff_eq_none] at free
      rw [Node.parentName, free] at parent
      contradiction
  · rintro rfl
    rw [Node.isRoot, ht.root_free]
    rfl

theorem WellFormed.name_inj (ht : t.WellFormed) {m n : Node} (hm : m ∈ t.walk) (hn : n ∈ t.walk)
    (same : m.name = n.name) : m = n := List.inj_on_of_nodup_map ht.distinct hm hn same

end Tree

namespace Description

variable {d : Description} {robotName : String} {t : Tree}

theorem Consistent.wellFormed_linkTree (hd : d.Consistent)
    (h : (d.linkTree robotName).result = .ok t) : t.WellFormed := by
  obtain ⟨root, hl, spans, rfl⟩ := hd.linkTree_ok h
  have unclaimed := spans.unclaimed
  have created := createdOnce_treeBelow hd hl spans robotName
  constructor
  · exact joint_grow _ _ _ _
  · intro n hn c hc
    have bare := List.mem_map_of_mem (f := Node.bare) hc
    rw [children_of_mem_treeBelow hd unclaimed hn] at bare
    obtain ⟨e, he, same⟩ := List.mem_map.1 bare
    have joint : c.joint = some e.2 := (congrArg Node.joint same).symm
    rw [Node.parentName, joint, Option.map_some, (mem_childrenOf.1 he).2]
  · exact names_treeBelow_nodup hd unclaimed robotName
  · intro n hn
    obtain ⟨e, he, link⟩ := List.mem_map.1 (created.links n hn)
    rw [← link]
    exact hd.mesh_named e he

theorem Consistent.drawnFrom_linkTree (hd : d.Consistent)
    (h : (d.linkTree robotName).result = .ok t) : t.DrawnFrom d := by
  obtain ⟨root, hl, spans, rfl⟩ := hd.linkTree_ok h
  have created := createdOnce_treeBelow hd hl spans robotName
  constructor
  · rw [created.root_name]
    exact spans.unclaimed
  · exact created.links
  · exact created.claims
  · intro n hn
    rw [created.children n hn]
    exact List.filter_sublist

theorem collision_treeBelow (d : Description) (robotName : String) (root : Link) {n : Node}
    (hn : n ∈ (d.treeBelow robotName root).walk) : n.collision = none := collision_grow hn

theorem Consistent.collision_linkTree (hd : d.Consistent)
    (h : (d.linkTree robotName).result = .ok t) : ∀ n ∈ t.walk, n.collision = none := by
  obtain ⟨root, -, -, rfl⟩ := hd.linkTree_ok h
  exact fun n hn => collision_treeBelow d robotName root hn

end Description

end Articulation
