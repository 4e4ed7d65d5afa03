import Articulation.Proofs.Pipeline
/-!
Pruning loses no geometry. With `requireNoMesh` a redundant node has no mesh in its subtree, so the
nodes with a mesh stay in the walk, in their order, and these are all that the later stages look at
when they ask for assets.
-/
set_option autoImplicit false

namespace Articulation

namespace Node

variable {keep q : Node → Bool}

/-- `ks` is what is left of `ns` when some trees are taken out in which no node has the property. -/
inductive Thinned (q : Node → Bool) : List Node → List Node → Prop where
  | nil : Thinned q [] []
  | keep {n : Node} {ks ns : List Node} (rest : Thinned q ks ns) : Thinned q (n :: ks) (n :: ns)
  | drop {n : Node} {ks ns : List Node} (without : ∀ m ∈ n.walk, q m = false)
      (rest : Thinned q ks ns) : Thinned q ks (n :: ns)

namespace Thinned

theorem refl (ns : List Node) : Thinned q ns ns := by
  induction ns with
  | nil => exact .nil
  | cons n ns ih => exact .keep ih

theorem filter_eq {ks ns : List Node} (h : Thinned q ks ns) : ks.filter q = ns.filter q := by
  induction h with
  | nil => rfl
  | keep rest ih => simp only [List.filter_cons, ih]
  | @drop n ks ns without rest ih =>
    rw [List.filter_cons_of_neg (by simp [without n (self_mem_walk n)]), ih]

theorem filter_keep (hk : ∀ n, keep n = false → ∀ m ∈ n.walk, q m = false) {ks ns : List Node}
    (h : Thinned q ks ns) : Thinned q (ks.filter keep) ns := by
  induction h with
  | nil => exact .nil
  | @keep n ks ns rest ih =>
    cases hn : keep n with
    | true =>
      rw [List.filter_cons_of_pos hn]
      exact .keep ih
    | false =>
      rw [List.filter_cons_of_neg (by simp [hn])]
      exact .drop (hk n hn) ih
  | drop without rest ih => exact .drop without ih

theorem append {ks ns ks' ns' : List Node} (h : Thinned q ks ns) (h' : Thinned q ks' ns') :
    Thinned q (ks ++ ks') (ns ++ ns') := by
  induction h with
  | nil => exact h'
  | keep rest ih => exact .keep ih
  | drop without rest ih => exact .drop without ih

theorem of_without {ns : List Node} (h : ∀ n ∈ ns, ∀ m ∈ n.walk, q m = false) :
    Thinned q [] ns := by
  induction ns with
  | nil => exact .nil
  | cons n ns ih =>
    exact .drop (h n List.mem_cons_self) (ih fun m hm => h m (List.mem_cons_of_mem n hm))

theorem flatMap_children {ks ns : List Node} (h : Thinned q ks ns) :
    Thinned q (ks.flatMap children) (ns.flatMap children) := by
  induction h with
  | nil => exact .nil
  | @keep n ks ns rest ih =>
    rw [List.flatMap_cons, List.flatMap_cons]
    exact (refl n.children).append ih
  | @drop n ks ns without rest ih =>
    have gone : Thinned q [] n.children :=
      of_without fun c hc m hm => without m (mem_walk.2 (.inr ⟨c, hc, hm⟩))
    rw [List.flatMap_cons]
    exact gone.append ih

theorem filter_walkAll (hk : ∀ n, keep n = false → ∀ m ∈ n.walk, q m = false) (ns : List Node) :
    ∀ ks, Thinned q ks ns → (walkAll keep ks).filter q = (forest ns).filter q := by
  induction ns using forest_induction with
  | nil =>
    intro ks h
    cases h
    rfl
  | step ns ih =>
    intro ks h
    -- what is left of a generation after the filter is thinned out as well, and so are its children
    have kept := h.filter_keep hk
    rw [walkAll_eq, forest_eq, List.filter_append, List.filter_append, kept.filter_eq,
      ih _ kept.flatMap_children]

end Thinned

theorem filter_walkKeeping (hk : ∀ n, keep n = false → ∀ m ∈ n.walk, q m = false) (n : Node) :
    (n.walkKeeping keep).filter q = n.walk.filter q := by
  rw [walkKeeping_eq, walk_eq]
  simp only [List.filter_cons, Thinned.filter_walkAll hk _ _ (.refl n.children)]

theorem noMesh_of_isRedundant {rule : PruneRule} (shielded : rule.requireNoMesh = true) {n : Node}
    (h : n.isRedundant rule = true) : ∀ m ∈ n.walk, m.link.hasMesh = false := by
  unfold isRedundant at h
  split at h
  next => contradiction
  next =>
    simp only [shielded, Bool.true_and, Bool.and_eq_true, Bool.not_eq_true'] at h
    have bare := h.2
    simpa [subtreeHasMesh] using bare

theorem meshNodes_walkKeeping {rule : PruneRule} (shielded : rule.requireNoMesh = true) (n : Node) :
    meshNodes (n.walkKeeping fun m => !m.isRedundant rule) = meshNodes n.walk := by
  refine filter_walkKeeping (fun m hm => noMesh_of_isRedundant shielded ?_) n
  simpa using hm

theorem map_link_meshNodes {f : Node → Node} (hf : ∀ n, (f n).link = n.link) (ns : List Node) :
    (meshNodes (ns.map f)).map link = (meshNodes ns).map link := by
  simp [meshNodes, List.filter_map, Function.comp_def, hf]

end Node

namespace Tree

variable {t : Tree} {rule : PruneRule}

/-- The nodes that pruning leaves, as they were before. -/
def kept (rule : PruneRule) (t : Tree) : List Node :=
  t.root.walkKeeping fun n => !n.isRedundant rule

theorem walk_prune (rule : PruneRule) (t : Tree) :
    (t.prune rule).walk = (t.kept rule).map (Node.prune rule) :=
  (Node.thins_prune rule).walk t.root

theorem kept_sublist (rule : PruneRule) (t : Tree) : (t.kept rule).Sublist t.walk :=
  Node.walkKeeping_sublist _ t.root

theorem meshLinks_prune (shielded : rule.requireNoMesh = true) (t : Tree) :
    (meshNodes (t.prune rule).walk).map Node.link = (meshNodes t.walk).map Node.link := by
  rw [walk_prune, Node.map_link_meshNodes (Node.thins_prune rule).link, kept,
    Node.meshNodes_walkKeeping shielded]
  rfl

end Tree

namespace Emission

variable (e : Emission) {t t' : Tree} {n n' : Node}

theorem entryOf_congr (robot : t.robotName = t'.robotName) (root : t.root.name = t'.root.name)
    (link : n.link = n'.link) (joint : n.joint = n'.joint)
    (collision : n.collision = n'.collision) :
    e.entryOf t n = e.entryOf t' n' := by
  unfold entryOf rootLabel Node.name Node.parentName Node.isRoot at *
  rw [robot, root, link, joint, collision]

theorem find?_lacks (ns : List Node) :
    (ns.map Node.link).find? e.lacks = ((meshNodes ns).map Node.link).find? e.lacks := by
  induction ns with
  | nil => rfl
  | cons n ns ih =>
    unfold meshNodes at ih ⊢
    cases hasMesh : n.link.hasMesh with
    | false => simp [lacks, hasMesh, ih]
    | true => simp only [List.filter_cons, hasMesh, if_true, List.map_cons, List.find?_cons, ih]

theorem isSome_visualOf {l : Link} (shown : e.lacks l = false) :
    (e.visualOf l).isSome = l.hasMesh := by
  unfold lacks at shown
  unfold visualOf
  cases hasMesh : l.hasMesh with
  | false => rfl
  | true =>
    rw [hasMesh, Bool.true_and] at shown
    simpa using shown

end Emission

namespace NodeEntry

def hasGeometry (n : NodeEntry) : Bool := n.visual.isSome || n.collider.isSome

theorem usedMaterials_filter (ns : List NodeEntry) :
    Emission.usedMaterials (ns.filter hasGeometry) = Emission.usedMaterials ns := by
  unfold Emission.usedMaterials
  induction ns with
  | nil => rfl
  | cons n ns ih =>
    cases shown : n.visual <;> cases solid : n.collider <;>
      simp [hasGeometry, shown, solid, ih]

end NodeEntry

/-- The first robot is what is left of the second when nodes without geometry go, each with all that
hangs on it. -/
structure Robot.Lightens (r full : Robot) : Prop where
  name : r.name = full.name
  nodes : r.nodes.Sublist full.nodes
  parents : ∀ n ∈ r.nodes, ∀ j, n.joint = some j → ∃ p ∈ r.nodes, p.link = j.parent
  geometry : r.nodes.filter NodeEntry.hasGeometry = full.nodes.filter NodeEntry.hasGeometry
  materials : r.materials = full.materials

namespace Compiler

variable {c : Compiler} {t : Tree} {rule : PruneRule}

theorem attachment_prune (shielded : rule.requireNoMesh = true) :
    c.attachment (t.prune rule) = c.attachment t :=
  associateNodes_congr 0 (t.meshLinks_prune shielded)

theorem hasMesh_of_lookup (ht : t.WellFormed) {n : Node} (hn : n ∈ t.walk)
    {g : CollisionGeometry} (h : (c.attachment t).attached.lookup n.name = some g) :
    n.link.hasMesh = true := by
  have listed := Roster.mem_entries_of_find? (r := ⟨(c.attachment t).attached⟩) h
  obtain ⟨m, hm, hasMesh, same⟩ := hasMesh_of_attached listed
  rw [← ht.name_inj hm hn same]
  exact hasMesh

theorem collision_trim (plain : ∀ n ∈ t.walk, n.collision = none) {n : Node}
    (hn : n ∈ (c.trim t).walk) : n.collision = none := by
  unfold trim at hn
  split at hn
  · rw [Tree.walk_prune] at hn
    obtain ⟨m, hm, rfl⟩ := List.mem_map.1 hn
    rw [Node.collision_prune]
    exact plain m ((t.kept_sublist _).subset hm)
  · exact plain n hn

theorem hasMesh_of_solid (ht : t.WellFormed) (plain : ∀ n ∈ t.walk, n.collision = none) {n : Node}
    (hn : n ∈ ((c.attachment t).apply t).walk) (solid : n.collision.isSome = true) :
    n.link.hasMesh = true := by
  rw [Association.apply, Tree.walk_attach] at hn
  obtain ⟨m, hm, rfl⟩ := List.mem_map.1 hn
  rw [Node.collision_attach, plain m hm, Option.or_none] at solid
  obtain ⟨g, found⟩ := Option.isSome_iff_exists.1 solid
  rw [(Node.thins_attach _).link]
  exact hasMesh_of_lookup ht hm found

theorem hasGeometry_entryOf (ht : t.WellFormed) (plain : ∀ n ∈ t.walk, n.collision = none)
    {n : Node} (hn : n ∈ t.walk) (shown : c.emission.lacks n.link = false) (t' : Tree) :
    (c.emission.entryOf t' (n.attach (c.attachment t).attached)).hasGeometry = n.link.hasMesh := by
  unfold NodeEntry.hasGeometry Emission.entryOf
  rw [Node.collision_attach, plain n hn, (Node.thins_attach _).link,
    c.emission.isSome_visualOf shown, Option.or_none, Option.isSome_map]
  cases found : (c.attachment t).attached.lookup n.name with
  | none => exact Bool.or_false _
  | some g => simp [hasMesh_of_lookup ht hn found]

theorem entries_prune (e : Emission) (rule : PruneRule) (t : Tree)
    (geometry : List (String × CollisionGeometry)) :
    ((t.prune rule).attach geometry).walk.map (e.entryOf ((t.prune rule).attach geometry)) =
      (t.kept rule).map fun n => e.entryOf (t.attach geometry) (n.attach geometry) := by
  have pruned := Node.thins_prune rule
  have attached := Node.thins_attach geometry
  rw [Tree.walk_attach, Tree.walk_prune, List.map_map, List.map_map]
  refine List.map_congr_left fun n _ => e.entryOf_congr rfl ?_ ?_ ?_ ?_
  · exact (attached.name _).trans ((pruned.name _).trans (attached.name _).symm)
  · exact (attached.link _).trans ((pruned.link _).trans (attached.link _).symm)
  · exact (attached.joint _).trans ((pruned.joint _).trans (attached.joint _).symm)
  · rw [Node.collision_attach, Node.collision_attach, pruned.name, Node.collision_prune]

theorem parent_before_entry (e : Emission) (ht : t.WellFormed) {before after : List NodeEntry}
    {n : NodeEntry} (split : t.walk.map (e.entryOf t) = before ++ n :: after) {j : Joint}
    (joint : n.joint = some j) : ∃ p ∈ before, p.link = j.parent := by
  obtain ⟨above, rest, walk, rfl, later⟩ := List.map_eq_append_iff.1 split
  obtain ⟨m, beneath, rfl, rfl, -⟩ := List.map_eq_cons_iff.1 later
  have joint : m.joint = some j := joint
  rcases ht.parent_before walk with ⟨-, rfl⟩ | ⟨p, hp, parent⟩
  · rw [ht.root_free] at joint
    contradiction
  · rw [Node.parentName, joint] at parent
    exact ⟨_, List.mem_map_of_mem hp, (Option.some.inj parent).symm⟩

theorem parent_entry (e : Emission) (ht : t.WellFormed) {n : NodeEntry}
    (hn : n ∈ t.walk.map (e.entryOf t)) {j : Joint} (hj : n.joint = some j) :
    ∃ p ∈ t.walk.map (e.entryOf t), p.link = j.parent := by
  obtain ⟨before, after, split⟩ := List.append_of_mem hn
  obtain ⟨p, hp, above⟩ := parent_before_entry e ht split hj
  refine ⟨p, ?_, above⟩
  rw [split]
  exact List.mem_append_left _ hp

theorem lightens_outcome (ht : t.WellFormed) (plain : ∀ n ∈ t.walk, n.collision = none)
    (shielded : rule.requireNoMesh = true)
    (shown : ∀ n ∈ t.walk, c.emission.lacks n.link = false) (materials : Roster Material) :
    (c.outcome (t.prune rule) materials).robot.Lightens (c.outcome t materials).robot := by
  have same := attachment_prune (c := c) (t := t) shielded
  -- both robots list entries of the unpruned tree
  let E (n : Node) : NodeEntry :=
    c.emission.entryOf (t.attach (c.attachment t).attached) (n.attach (c.attachment t).attached)
  have full : (c.outcome t materials).robot.nodes = t.walk.map E := by
    simp only [outcome, Association.apply, Tree.walk_attach, List.map_map]
    rfl
  have pruned : (c.outcome (t.prune rule) materials).robot.nodes = (t.kept rule).map E := by
    simp only [outcome, Association.apply, same]
    exact entries_prune c.emission rule t (c.attachment t).attached
  have geometric {ns : List Node} (h : ns.Sublist t.walk) :
      (ns.map E).filter NodeEntry.hasGeometry = (meshNodes ns).map E := by
    rw [List.filter_map, meshNodes]
    refine congrArg (List.map E) (List.filter_congr fun n hn => ?_)
    have listed := h.subset hn
    exact hasGeometry_entryOf ht plain listed (shown n listed) _
  have geometry : (c.outcome (t.prune rule) materials).robot.nodes.filter NodeEntry.hasGeometry =
      (c.outcome t materials).robot.nodes.filter NodeEntry.hasGeometry := by
    rw [full, pruned, geometric (t.kept_sublist rule), geometric (List.Sublist.refl _)]
    exact congrArg (List.map E) (Node.meshNodes_walkKeeping shielded t.root)
  constructor
  · rfl
  · rw [full, pruned]
    exact (t.kept_sublist rule).map E
  · intro n hn j hj
    exact parent_entry c.emission (wellFormed_outcome (ht.prune rule) materials) hn hj
  · exact geometry
  · have used := congrArg Emission.usedMaterials geometry
    rw [NodeEntry.usedMaterials_filter, NodeEntry.usedMaterials_filter] at used
    exact congrArg (fun used : List String => materials.filter used.contains) used

theorem finish_prune (ht : t.WellFormed) (plain : ∀ n ∈ t.walk, n.collision = none)
    (shielded : rule.requireNoMesh = true) (materials : Roster Material) :
    (∃ f, c.finish (t.prune rule) materials = .error f ∧ c.finish t materials = .error f) ∨
    ∃ pruned full, c.finish (t.prune rule) materials = .ok pruned ∧
      c.finish t materials = .ok full ∧ pruned.robot.Lightens full.robot := by
  -- both stages that may fail look at the links of the mesh nodes alone
  rw [finish_eq, finish_eq, attachment_prune shielded, c.emission.find?_lacks,
    t.meshLinks_prune shielded, ← c.emission.find?_lacks]
  cases (c.attachment t).failure with
  | some f => exact .inl ⟨f, rfl, rfl⟩
  | none =>
    cases lost : (t.walk.map Node.link).find? c.emission.lacks with
    | some l => exact .inl ⟨_, rfl, rfl⟩
    | none =>
      refine .inr ⟨_, _, rfl, rfl, lightens_outcome ht plain shielded (fun n hn => ?_) materials⟩
      simpa using List.find?_eq_none.1 lost n.link (List.mem_map_of_mem hn)

def pruning (c : Compiler) (prune : Bool) : Compiler :=
  { c with config := { c.config with prune } }

theorem compile_pruning (c : Compiler) (shielded : c.config.pruneRequireNoMesh = true)
    (text : String) :
    (∃ f, ((c.pruning true).compile text).result = .error f ∧
      ((c.pruning false).compile text).result = .error f) ∨
    ∃ pruned full, ((c.pruning true).compile text).result = .ok pruned ∧
      ((c.pruning false).compile text).result = .ok full ∧
      pruned.robot.Lightens full.robot := by
  rw [result_compile, result_compile]
  have axis (prune : Bool) : (c.pruning prune).config.upAxis = c.config.upAxis := rfl
  rw [axis, axis]
  cases accepted : (Description.ofText c.config.upAxis text).result with
  | error e => exact .inl ⟨_, rfl, rfl⟩
  | ok d =>
    simp only [Except.mapError, ok_bind]
    cases built : (d.linkTree d.robotName).result with
    | error e => exact .inl ⟨_, rfl, rfl⟩
    | ok t =>
      have hd := Description.consistent_of_ofText accepted
      have plain : ∀ n ∈ t.walk, n.collision = none := by
        obtain ⟨root, _, _, rfl⟩ := hd.linkTree_ok built
        exact fun n hn => Description.collision_treeBelow d d.robotName root hn
      have rule : c.config.pruneRule.requireNoMesh = true := shielded
      exact finish_prune (c := c) (hd.wellFormed_linkTree built) plain rule d.materials

def hulled : Compiler := ⟨.standard, some fun _ => some "hull.obj", none⟩

/-- The tag is pruned; the base keeps its mesh, its collider and the colour that the tag declares. -/
theorem compile_pruning_cell : ∃ pruned full,
    ((hulled.pruning true).compile Description.cellText).result = .ok pruned ∧
    ((hulled.pruning false).compile Description.cellText).result = .ok full ∧
    pruned.robot.nodes.map (fun n => (n.link, n.visual.isSome, n.collider.isSome)) =
      [("base", true, true), ("arm", false, false)] ∧
    full.robot.nodes.map NodeEntry.link = ["base", "arm", "tag"] ∧
    pruned.robot.materials.names = ["red"] ∧
    pruned.robot.Lightens full.robot := by
  have light : ((hulled.pruning true).compile Description.cellText).result.toOption.map
      (fun made => (made.robot.nodes.map fun n => (n.link, n.visual.isSome, n.collider.isSome),
        made.robot.materials.names)) =
      some ([("base", true, true), ("arm", false, false)], ["red"]) := by
    rw [compile_of_read Description.read_cellText]
    decide +kernel
  have whole : ((hulled.pruning false).compile Description.cellText).result.toOption.map
      (fun made => made.robot.nodes.map NodeEntry.link) = some ["base", "arm", "tag"] := by
    rw [compile_of_read Description.read_cellText]
    decide +kernel
  obtain ⟨pruned, h, shape⟩ := exists_ok_of_map light
  obtain ⟨full, h', links⟩ := exists_ok_of_map whole
  obtain ⟨nodes, materials⟩ := Prod.mk.inj shape
  rcases compile_pruning hulled rfl Description.cellText with
    ⟨f, failed, -⟩ | ⟨pruned', full', made, made', lightens⟩
  · rw [h] at failed
    contradiction
  · obtain rfl : pruned = pruned' := Except.ok.inj (h.symm.trans made)
    obtain rfl : full = full' := Except.ok.inj (h'.symm.trans made')
    exact ⟨pruned, full, h, h', nodes, links, materials, lightens⟩

end Compiler

end Articulation
