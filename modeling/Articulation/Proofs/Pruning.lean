import Articulation.Proofs.Geometry
import Articulation.Proofs.NumberOrder
/-!
What pruning removes. A node stays if no node on the way up to it is redundant, the root left aside.
Of two rules the stronger one takes in what the weaker one does, in either order of application.
What is cut off has a mass below the threshold, unless its mass is no number.
-/
set_option autoImplicit false

namespace Articulation

open Xml (Element)

namespace Node

/-- From a node down to another one, which may be the node itself. -/
def Above : Node → Node → Prop := Relation.ReflTransGen fun p c => c ∈ p.children

/-- As `Above`, by way of children that are entered. -/
def Leads (keep : Node → Bool) : Node → Node → Prop :=
  Relation.ReflTransGen fun p c => c ∈ p.children ∧ keep c = true

variable {keep : Node → Bool} {m n : Node} {rule : PruneRule}

theorem mem_walkAll {ns : List Node} :
    m ∈ walkAll keep ns ↔ ∃ c ∈ ns, keep c = true ∧ m ∈ c.walkKeeping keep := by
  rw [(walkAll_perm keep ns).mem_iff, List.mem_flatMap]
  simp only [List.mem_filter, and_assoc]

theorem mem_walkKeeping : m ∈ n.walkKeeping keep ↔ Leads keep n m := by
  constructor
  · induction n using child_induction with
    | step n ih =>
      intro h
      rw [walkKeeping_eq, List.mem_cons, mem_walkAll] at h
      rcases h with rfl | ⟨c, hc, entered, below⟩
      · exact .refl
      · exact (ih c hc below).head ⟨hc, entered⟩
  · intro h
    induction h using Relation.ReflTransGen.head_induction_on with
    | refl =>
      rw [walkKeeping_eq]
      exact List.mem_cons_self
    | head step _ ih =>
      rw [walkKeeping_eq]
      exact List.mem_cons_of_mem _ (mem_walkAll.2 ⟨_, step.1, step.2, ih⟩)

theorem mem_walk_iff : m ∈ n.walk ↔ n.Above m := by
  have all : m ∈ n.walk ↔ Leads (fun _ => true) n m := mem_walkKeeping
  simpa [Leads, Above] using all

theorem Leads.above (h : Leads keep n m) : n.Above m :=
  Relation.ReflTransGen.mono (fun _ _ step => step.1) _ _ h

/-- What pruning asks of a node that it takes out. -/
structure Redundant (rule : PruneRule) (n : Node) : Prop where
  fixed : ∃ j, n.joint = some j ∧ j.type = .fixed
  light : ¬rule.massThreshold ≤ n.link.mass
  meshless : rule.requireNoMesh = true → ∀ m, n.Above m → m.link.hasMesh = false

theorem subtreeHasMesh_eq_false :
    n.subtreeHasMesh = false ↔ ∀ m, n.Above m → m.link.hasMesh = false := by
  simp [subtreeHasMesh, mem_walk_iff]

theorem isRedundant_iff : n.isRedundant rule = true ↔ n.Redundant rule := by
  unfold isRedundant
  constructor
  · intro h
    split at h
    next => contradiction
    next j joint =>
      simp only [Bool.and_eq_true, Bool.not_eq_true', beq_iff_eq, decide_eq_false_iff_not,
        Bool.and_eq_false_imp, subtreeHasMesh_eq_false] at h
      exact ⟨⟨j, joint, h.1.1⟩, h.1.2, h.2⟩
  · rintro ⟨⟨j, joint, fixed⟩, light, meshless⟩
    rw [joint]
    simp only [Bool.and_eq_true, Bool.not_eq_true', beq_iff_eq, decide_eq_false_iff_not,
      Bool.and_eq_false_imp, subtreeHasMesh_eq_false]
    exact ⟨⟨fixed, light⟩, meshless⟩

theorem prune_mk (rule : PruneRule) (l : Link) (j : Option Joint) (c : Option CollisionGeometry)
    (ns : List Node) :
    prune rule (mk l j c ns) =
      mk l j c ((ns.filter fun n => !n.isRedundant rule).map (prune rule)) := by
  rw [prune, pruneAll_eq]

end Node

namespace Tree

variable {t : Tree} {rule : PruneRule} {m n p : Node}

theorem mem_walk_iff : n ∈ t.walk ↔ t.root.Above n := Node.mem_walk_iff

theorem mem_kept : n ∈ t.kept rule ↔ Node.Leads (fun n => !n.isRedundant rule) t.root n :=
  Node.mem_walkKeeping

/-- Nothing is above the root. -/
theorem WellFormed.ne_root (ht : t.WellFormed) (hp : p ∈ t.walk) (hn : n ∈ p.children) :
    n ≠ t.root := by
  rintro rfl
  have parent := ht.parents p hp _ hn
  rw [Node.parentName, ht.root_free] at parent
  contradiction

/-- A node hangs on one node only. -/
theorem WellFormed.parent_unique (ht : t.WellFormed) {q : Node} (hp : p ∈ t.walk)
    (hq : q ∈ t.walk) (below : n ∈ p.children) (below' : n ∈ q.children) : p = q := by
  have parent := ht.parents p hp n below
  rw [ht.parents q hq n below'] at parent
  exact ht.name_inj hp hq (Option.some.inj parent).symm

theorem WellFormed.above_child (ht : t.WellFormed) {a : Node} (ha : a ∈ t.walk) (hp : p ∈ t.walk)
    (hn : n ∈ p.children) : a.Above n ↔ a = n ∨ a.Above p := by
  constructor
  · intro h
    rcases h.cases_tail with same | ⟨q, above, below⟩
    · exact .inl same.symm
    · have hq : q ∈ t.walk := mem_walk_iff.2 ((mem_walk_iff.1 ha).trans above)
      rw [ht.parent_unique hp hq hn below]
      exact .inr above
  · rintro (rfl | above)
    · exact .refl
    · exact above.tail hn

theorem WellFormed.mem_kept_iff (ht : t.WellFormed) (hn : n ∈ t.walk) :
    n ∈ t.kept rule ↔ ∀ a ∈ t.walk, a ≠ t.root → a.Above n → ¬a.Redundant rule := by
  -- along the way from the root, on which every node but the last one is above the next one
  have way := mem_walk_iff.1 hn
  clear hn
  induction way with
  | refl =>
    refine ⟨fun _ a ha other above => ?_, fun _ => mem_kept.2 .refl⟩
    rcases above.cases_tail with same | ⟨q, above, below⟩
    · exact absurd same.symm other
    · exact absurd rfl (ht.ne_root (mem_walk_iff.2 ((mem_walk_iff.1 ha).trans above)) below)
  | @tail p n way below ih =>
    have hp : p ∈ t.walk := mem_walk_iff.2 way
    have hn : n ∈ t.walk := mem_walk_iff.2 (way.tail below)
    have kept : n ∈ t.kept rule ↔ p ∈ t.kept rule ∧ ¬n.Redundant rule := by
      rw [← Node.isRedundant_iff, Bool.not_eq_true, ← Bool.not_eq_true']
      constructor
      · intro h
        rcases (mem_kept.1 h).cases_tail with same | ⟨q, leads, child, entered⟩
        · exact absurd same (ht.ne_root hp below)
        · have hq : q ∈ t.walk := mem_walk_iff.2 (Node.Leads.above leads)
          rw [ht.parent_unique hp hq below child]
          exact ⟨mem_kept.2 leads, entered⟩
      · rintro ⟨h, entered⟩
        exact mem_kept.2 ((mem_kept.1 h).tail ⟨below, entered⟩)
    refine (kept.trans (and_congr_left fun _ => ih)).trans ⟨?_, ?_⟩
    · rintro ⟨sound, own⟩ a ha other above
      rcases (ht.above_child ha hp below).1 above with rfl | above
      · exact own
      · exact sound a ha other above
    · intro h
      refine ⟨fun a ha other above => h a ha other (above.tail below), ?_⟩
      exact h n hn (ht.ne_root hp below) .refl

theorem WellFormed.name_mem_prune (ht : t.WellFormed) (hn : n ∈ t.walk) :
    n.name ∈ (t.prune rule).names ↔ n ∈ t.kept rule := by
  rw [names, walk_prune, List.map_map]
  constructor
  · intro h
    obtain ⟨m, hm, same⟩ := List.mem_map.1 h
    rw [Function.comp_apply, (Node.thins_prune rule).name] at same
    rwa [← ht.name_inj ((t.kept_sublist rule).subset hm) hn same]
  · intro h
    exact List.mem_map.2 ⟨n, h, (Node.thins_prune rule).name n⟩

end Tree

theorem Node.bare_prune (rule : PruneRule) (n : Node) : (n.prune rule).bare = n.bare := by
  cases n
  rfl

/-- What is left of a tree when a rule is applied to it. -/
structure Tree.PrunedBy (rule : PruneRule) (t p : Tree) : Prop where
  robot : p.robotName = t.robotName
  root : p.root.bare = t.root.bare
  tree : p.WellFormed
  kept : ∀ n ∈ t.walk,
    n.name ∈ p.names ↔ ∀ a ∈ t.walk, a ≠ t.root → a.Above n → ¬a.Redundant rule
  same : ∀ n ∈ t.walk, ∀ k ∈ p.walk, k.name = n.name → k.bare = n.bare ∧
    k.children.map Node.bare = (n.children.filter (·.name ∈ p.names)).map Node.bare
  parent : ∀ n ∈ t.walk, ∀ c ∈ n.children, c.name ∈ p.names →
    ∃ k ∈ p.walk, k.name = n.name ∧ ∃ b ∈ k.children, b.name = c.name
  order : (p.walk.map Node.bare).Sublist (t.walk.map Node.bare)

namespace Tree

variable {t : Tree}

theorem bare_walk_prune (rule : PruneRule) (t : Tree) :
    ((t.prune rule).walk.map Node.bare).Sublist (t.walk.map Node.bare) := by
  have same : (t.prune rule).walk.map Node.bare = (t.kept rule).map Node.bare := by
    rw [walk_prune, List.map_map]
    exact List.map_congr_left fun n _ => n.bare_prune rule
  rw [same]
  exact (t.kept_sublist rule).map Node.bare

theorem WellFormed.prunedBy (ht : t.WellFormed) (rule : PruneRule) :
    t.PrunedBy rule (t.prune rule) := by
  -- of a node that stays just those children stay that are not redundant
  have child {n c : Node} (hn : n ∈ t.kept rule) (hc : c ∈ n.children) :
      c.name ∈ (t.prune rule).names ↔ c.isRedundant rule = false := by
    have walked := (t.kept_sublist rule).subset hn
    rw [ht.name_mem_prune (Node.walk_closed walked hc)]
    constructor
    · intro h
      have sound := (ht.mem_kept_iff (Node.walk_closed walked hc)).1 h c
        (Node.walk_closed walked hc) (ht.ne_root walked hc) .refl
      rwa [← Node.isRedundant_iff, Bool.not_eq_true] at sound
    · intro sound
      exact mem_kept.2 ((mem_kept.1 hn).tail ⟨hc, by simp [sound]⟩)
  constructor
  · rfl
  · exact t.root.bare_prune rule
  · exact ht.prune rule
  · intro n hn
    rw [ht.name_mem_prune hn, ht.mem_kept_iff hn]
  · intro n hn k hk same
    rw [walk_prune] at hk
    obtain ⟨m, hm, rfl⟩ := List.mem_map.1 hk
    rw [(Node.thins_prune rule).name] at same
    obtain rfl := ht.name_inj ((t.kept_sublist rule).subset hm) hn same
    refine ⟨m.bare_prune rule, ?_⟩
    have children : m.children.filter (fun c => !c.isRedundant rule) =
        m.children.filter (·.name ∈ (t.prune rule).names) :=
      List.filter_congr fun c hc => by simp [child hm hc]
    rw [(Node.thins_prune rule).children, children, List.map_map]
    exact List.map_congr_left fun c _ => c.bare_prune rule
  · intro n hn c hc stays
    have kept : n ∈ t.kept rule := by
      have walked := Node.walk_closed hn hc
      rw [ht.name_mem_prune walked, ht.mem_kept_iff walked] at stays
      exact (ht.mem_kept_iff hn).2 fun a ha other above => stays a ha other (above.tail hc)
    have stays := (child kept hc).1 stays
    refine ⟨n.prune rule, ?_, (Node.thins_prune rule).name n, c.prune rule, ?_,
      (Node.thins_prune rule).name c⟩
    · rw [walk_prune]
      exact List.mem_map_of_mem kept
    · rw [(Node.thins_prune rule).children]
      exact List.mem_map_of_mem (List.mem_filter.2 ⟨hc, by simp [stays]⟩)
  · exact t.bare_walk_prune rule

end Tree

/-- The trees that come out of a description: the one that it spans, and what pruning and the
association of collision meshes make of such trees. -/
inductive Description.Derives (d : Description) : Tree → Prop where
  | grown {robotName : String} {t : Tree} (built : (d.linkTree robotName).result = .ok t) :
    Derives d t
  | pruned {t : Tree} (rule : PruneRule) (before : Derives d t) : Derives d (t.prune rule)
  | associated {t : Tree} (source : CollisionSource) (lookup : Option Lookup) (required : Bool)
    (before : Derives d t) : Derives d ((associate source lookup required t).apply t)

namespace Description

variable {u : UpAxis} {text : String} {d : Description} {t : Tree}

theorem Consistent.wellFormed_derived (hd : d.Consistent) (h : d.Derives t) : t.WellFormed := by
  induction h with
  | grown built => exact hd.wellFormed_linkTree built
  | pruned rule _ ih => exact ih.prune rule
  | associated source lookup required _ ih => exact ih.attach _

theorem Consistent.drawnFrom_derived (hd : d.Consistent) (h : d.Derives t) : t.DrawnFrom d := by
  induction h with
  | grown built => exact hd.drawnFrom_linkTree built
  | pruned rule _ ih => exact ih.thin (Node.thins_prune rule)
  | associated source lookup required _ ih => exact ih.thin (Node.thins_attach _)

theorem pruned_derived (accepted : (ofText u text).result = .ok d) (h : d.Derives t)
    (rule : PruneRule) : ∃ p, (pruneTree rule t).result = .ok p ∧ t.PrunedBy rule p :=
  ⟨t.prune rule, rfl, ((consistent_of_ofText accepted).wellFormed_derived h).prunedBy rule⟩

/-- The tag on the base weighs nothing. -/
theorem pruned_derived_cell : ∃ d t p, (ofText .y cellText).result = .ok d ∧ d.Derives t ∧
    t.names = ["base", "arm", "tag"] ∧ (pruneTree .standard t).result = .ok p ∧
    p.names = ["base", "arm"] ∧ t.PrunedBy .standard p := by
  obtain ⟨t, h, names⟩ : ∃ t, ((ofText .y cellText).result >>= fun d =>
      (d.linkTree d.robotName).result) = .ok t ∧
      (t.names, (t.prune .standard).names) = (["base", "arm", "tag"], ["base", "arm"]) := by
    rw [ofText_of_read read_cellText]
    exact exists_ok_of_map (by decide +kernel)
  obtain ⟨d, accepted, built⟩ := bind_eq_ok.1 h
  obtain ⟨p, result, pruned⟩ := pruned_derived accepted (.grown built) .standard
  obtain rfl : t.prune .standard = p := Except.ok.inj result
  obtain ⟨before, after⟩ := Prod.mk.inj names
  exact ⟨d, t, _, accepted, .grown built, before, result, after, pruned⟩

end Description

/-- The strong rule takes out what the weak one does. -/
structure PruneRule.Below (weak strong : PruneRule) : Prop where
  threshold : ∀ mass : Float, strong.massThreshold ≤ mass → weak.massThreshold ≤ mass
  mesh : strong.requireNoMesh = true → weak.requireNoMesh = true

theorem PruneRule.Below.refl (rule : PruneRule) : rule.Below rule := ⟨fun _ h => h, fun h => h⟩

namespace Node

variable {weak strong rule : PruneRule} {m n : Node}

theorem Redundant.strengthen (h : n.Redundant weak) (order : weak.Below strong) :
    n.Redundant strong :=
  ⟨h.fixed, fun heavy => h.light (order.threshold _ heavy),
    fun shielded => h.meshless (order.mesh shielded)⟩

/-- Where meshes are kept, a subtree has one afterwards if it had one. -/
theorem meshless_prune (shielded : rule.requireNoMesh = true) (n : Node) :
    (∀ m, (n.prune rule).Above m → m.link.hasMesh = false) ↔
      ∀ m, n.Above m → m.link.hasMesh = false := by
  have none (ns : List Node) :
      (∀ m ∈ ns, m.link.hasMesh = false) ↔ (meshNodes ns).map link = [] := by
    simp [meshNodes, List.filter_eq_nil_iff]
  simp only [← mem_walk_iff]
  rw [none, none, (thins_prune rule).walk, map_link_meshNodes (thins_prune rule).link,
    meshNodes_walkKeeping shielded]

theorem redundant_prune (order : weak.Below strong) :
    (n.prune weak).Redundant strong ↔ n.Redundant strong := by
  have link := (thins_prune weak).link n
  have joint := (thins_prune weak).joint n
  constructor
  · rintro ⟨fixed, light, meshless⟩
    rw [link] at light
    rw [joint] at fixed
    exact ⟨fixed, light, fun h => (meshless_prune (order.mesh h) n).1 (meshless h)⟩
  · rintro ⟨fixed, light, meshless⟩
    rw [← link] at light
    rw [← joint] at fixed
    exact ⟨fixed, light, fun h => (meshless_prune (order.mesh h) n).2 (meshless h)⟩

theorem prune_prune (order : weak.Below strong) (n : Node) :
    (n.prune weak).prune strong = n.prune strong := by
  induction n using child_induction with
  | step n ih =>
    obtain ⟨l, j, c, ns⟩ := n
    have verdict (n : Node) : (n.prune weak).isRedundant strong = n.isRedundant strong := by
      rw [Bool.eq_iff_iff, isRedundant_iff, isRedundant_iff, redundant_prune order]
    have both (n : Node) : (!n.isRedundant strong && !n.isRedundant weak) =
        !n.isRedundant strong := by
      cases out : n.isRedundant weak with
      | false => rw [Bool.not_false, Bool.and_true]
      | true => rw [isRedundant_iff.2 ((isRedundant_iff.1 out).strengthen order)]; rfl
    rw [prune_mk, prune_mk, prune_mk, List.filter_map, List.map_map, List.filter_filter]
    simp only [Function.comp_def, verdict, both]
    exact congrArg (mk l j c) (List.map_congr_left fun n hn => ih n (List.mem_of_mem_filter hn))

theorem prune_after_prune (order : weak.Below strong) (n : Node) :
    (n.prune strong).prune weak = n.prune strong := by
  induction n using child_induction with
  | step n ih =>
    obtain ⟨l, j, c, ns⟩ := n
    have stays {n : Node} (sound : n.isRedundant strong = false) :
        (n.prune strong).isRedundant weak = false := by
      rw [← Bool.not_eq_true, isRedundant_iff] at sound ⊢
      exact fun out => sound ((redundant_prune (.refl strong)).1 (out.strengthen order))
    rw [prune_mk, prune_mk, List.filter_eq_self.2, List.map_map]
    · exact congrArg (mk l j c) (List.map_congr_left fun n hn => ih n (List.mem_of_mem_filter hn))
    · refine List.forall_mem_map.2 fun n hn => ?_
      have sound := (List.mem_filter.1 hn).2
      rw [Bool.not_eq_true'] at sound
      rw [stays sound, Bool.not_false]

end Node

namespace Tree

variable {weak strong : PruneRule}

theorem prune_prune (order : weak.Below strong) (t : Tree) :
    (t.prune weak).prune strong = t.prune strong ∧
      (t.prune strong).prune weak = t.prune strong :=
  ⟨congrArg (Tree.mk t.robotName) (t.root.prune_prune order),
    congrArg (Tree.mk t.robotName) (t.root.prune_after_prune order)⟩

/-- A stronger rule absorbs a weaker one on either side, and every rule absorbs itself. -/
theorem pruneTree_absorbs (t : Tree) :
    (∀ weak strong : PruneRule, weak.massThreshold ≤ strong.massThreshold →
      (strong.requireNoMesh = true → weak.requireNoMesh = true) →
      ∃ p q, (pruneTree weak t).result = .ok p ∧ (pruneTree strong t).result = .ok q ∧
        (pruneTree strong p).result = .ok q ∧ (pruneTree weak q).result = .ok q ∧
        (q.walk.map Node.bare).Sublist (p.walk.map Node.bare)) ∧
    ∀ rule : PruneRule, ∃ p, (pruneTree rule t).result = .ok p ∧
      (pruneTree rule p).result = .ok p := by
  constructor
  · intro weak strong lower mesh
    have order : weak.Below strong := ⟨fun _ h => Number.le_trans lower h, mesh⟩
    obtain ⟨first, second⟩ := t.prune_prune order
    refine ⟨t.prune weak, t.prune strong, rfl, rfl, congrArg Except.ok first,
      congrArg Except.ok second, ?_⟩
    rw [← first]
    exact (t.prune weak).bare_walk_prune strong
  · intro rule
    exact ⟨t.prune rule, rfl, congrArg Except.ok (t.prune_prune (.refl rule)).1⟩

/-- A base with a light shelf that has a mesh, and a tag on the shelf. -/
def rack : Tree :=
  let pin (parent child : String) : Joint := .undriven "pin" .fixed parent child .identity
  let shelf : Link := { Link.massive "shelf" 0.5 with hasMesh := true, meshReference := "s.stl" }
  ⟨"rack", .mk (.massive "base" 2) none none [
    .mk shelf (some (pin "base" "shelf")) none [
      .mk (.sensor "tag") (some (pin "shelf" "tag")) none []]]⟩

theorem pruneTree_absorbs_rack : ∃ p q, (pruneTree ⟨0.01, true⟩ rack).result = .ok p ∧
    p.names = ["base", "shelf"] ∧ (pruneTree ⟨1, false⟩ rack).result = .ok q ∧
    q.names = ["base"] ∧ (pruneTree ⟨1, false⟩ p).result = .ok q ∧
    (pruneTree ⟨0.01, true⟩ q).result = .ok q := by
  obtain ⟨p, q, weak, strong, first, second, -⟩ :=
    rack.pruneTree_absorbs.1 ⟨0.01, true⟩ ⟨1, false⟩ (by decide +kernel) (fun _ => rfl)
  obtain rfl : rack.prune ⟨0.01, true⟩ = p := Except.ok.inj weak
  obtain rfl : rack.prune ⟨1, false⟩ = q := Except.ok.inj strong
  exact ⟨_, _, rfl, by decide +kernel, rfl, by decide +kernel, first, second⟩

end Tree

namespace Description

variable {u : UpAxis}

/-- A mass is not below zero; one that is no number is let in. -/
theorem not_negative_of_readMass {link : String} {inertial : Element} {mass : Float}
    (h : readMass link inertial = .ok mass) : ¬mass < 0 := by
  unfold readMass at h
  split at h
  next => contradiction
  next e _ =>
    obtain ⟨value, _, h⟩ := bind_eq_ok.1 h
    obtain ⟨number, _, h⟩ := bind_eq_ok.1 h
    split at h
    next => contradiction
    next sound =>
      cases h
      exact sound

theorem mass_readVisual {ms ms' : Roster Material} {visual : Element} {l m : Link}
    (h : readVisual u ms visual l = .ok (m, ms')) : m.mass = l.mass := by
  obtain ⟨⟨material, materials⟩, _, h⟩ := bind_eq_ok.1 h
  obtain ⟨shown, hmesh, h⟩ := bind_eq_ok.1 h
  cases h
  rcases readMesh_ok hmesh with rfl | ⟨reference, pose, _, rfl⟩ <;> rfl

theorem not_negative_of_readLink {ms ms' : Roster Material} {e : Element} {l : Link}
    (h : readLink u ms e = .ok (l, ms')) : ¬l.mass < 0 := by
  obtain ⟨name, _, h⟩ := bind_eq_ok.1 h
  split at h
  next =>
    cases h
    exact (by decide : ¬(0 : Float) < 0)
  next inertial _ =>
    obtain ⟨body, hbody, h⟩ := bind_eq_ok.1 h
    have sound : ¬body.mass < 0 := by
      obtain ⟨mass, hmass, hbody⟩ := bind_eq_ok.1 hbody
      obtain ⟨pose, _, hbody⟩ := bind_eq_ok.1 hbody
      cases hbody
      exact not_negative_of_readMass hmass
    split at h
    next =>
      cases h
      exact sound
    next visual _ => rwa [mass_readVisual h]

theorem not_negative_of_readLinks {es : List Element} {ls : List Link}
    (read : List.Forall₂ (fun e l => ∃ before after, readLink u before e = .ok (l, after)) es ls) :
    ∀ l ∈ ls, ¬l.mass < 0 := by
  induction read with
  | nil => exact List.forall_mem_nil _
  | cons here _ ih =>
    obtain ⟨before, after, here⟩ := here
    exact List.forall_mem_cons.2 ⟨not_negative_of_readLink here, ih⟩

theorem not_negative_of_ofText {text : String} {d : Description}
    (accepted : (ofText u text).result = .ok d) : ∀ l ∈ d.links.values, ¬l.mass < 0 := by
  obtain ⟨root, -, h⟩ := ofText_ok accepted
  obtain ⟨-, ms, _, ms', js, -, hls, -, -, rfl⟩ := ofElement_ok_iff.1 h
  obtain ⟨ls, rfl, -, read⟩ := readLinks_each hls
  have sound := not_negative_of_readLinks read
  rw [map_settleMaterial, Roster.values_keyed]
  refine List.forall_mem_map.2 fun l hl => ?_
  have settled : (settleMaterial ms' l).mass = l.mass := by
    unfold settleMaterial
    split <;> rfl
  rw [settled]
  exact sound l hl

end Description

/-- Pruning cuts the tree off at this node: it goes, and the node that it hangs on stays. -/
def Tree.CutAt (rule : PruneRule) (t : Tree) (n : Node) : Prop :=
  ∃ p ∈ t.walk, n ∈ p.children ∧ p.name ∈ (t.prune rule).names ∧ n.name ∉ (t.prune rule).names

/-- Everything that is cut off has a mass of which it can be said that it is below the threshold. -/
def Tree.CutsLight (rule : PruneRule) (t : Tree) : Prop :=
  ∀ n, t.CutAt rule n → 0 ≤ n.link.mass ∧ n.link.mass < rule.massThreshold

namespace Node

theorem prune_eq_self {rule : PruneRule} (n : Node)
    (sound : ∀ p ∈ n.walkKeeping fun m => !m.isRedundant rule, ∀ c ∈ p.children,
      c.isRedundant rule = false) : n.prune rule = n := by
  induction n using child_induction with
  | step n ih =>
    obtain ⟨l, j, c, ns⟩ := n
    have top : ∀ n ∈ ns, n.isRedundant rule = false := sound _ (mem_walkKeeping.2 .refl)
    have below : ∀ n ∈ ns, n.prune rule = n := by
      intro n hn
      refine ih n hn fun p hp => sound p ?_
      have entered : n ∈ (mk l j c ns).children ∧ (!n.isRedundant rule) = true :=
        ⟨hn, by rw [top n hn, Bool.not_false]⟩
      exact mem_walkKeeping.2 ((mem_walkKeeping.1 hp).head entered)
    rw [prune_mk, List.filter_eq_self.2 fun n hn => by rw [top n hn, Bool.not_false],
      List.map_congr_left below, List.map_id']

end Node

namespace Tree

variable {t : Tree} {rule : PruneRule} {n : Node}

theorem WellFormed.cutAt_iff (ht : t.WellFormed) :
    t.CutAt rule n ↔ ∃ p ∈ t.kept rule, n ∈ p.children ∧ n.Redundant rule := by
  constructor
  · rintro ⟨p, hp, hn, stays, goes⟩
    have kept := (ht.name_mem_prune hp).1 stays
    refine ⟨p, kept, hn, Node.isRedundant_iff.1 ?_⟩
    by_contra sound
    refine goes ((ht.name_mem_prune (Node.walk_closed hp hn)).2 (mem_kept.2 ?_))
    exact (mem_kept.1 kept).tail ⟨hn, by simpa using sound⟩
  · rintro ⟨p, kept, hn, out⟩
    have hp := (t.kept_sublist rule).subset kept
    have walked := Node.walk_closed hp hn
    refine ⟨p, hp, hn, (ht.name_mem_prune hp).2 kept, fun stays => ?_⟩
    rw [ht.name_mem_prune walked, ht.mem_kept_iff walked] at stays
    exact stays n walked (ht.ne_root hp hn) .refl out

theorem WellFormed.prune_eq_self_iff (ht : t.WellFormed) :
    t.prune rule = t ↔ ∀ n, ¬t.CutAt rule n := by
  constructor
  · rintro same n ⟨p, hp, hn, -, goes⟩
    rw [same] at goes
    exact goes (List.mem_map_of_mem (Node.walk_closed hp hn))
  · intro whole
    refine congrArg (Tree.mk t.robotName) (t.root.prune_eq_self fun p hp c hc => ?_)
    rw [← Bool.not_eq_true, Node.isRedundant_iff]
    exact fun out => whole c (ht.cutAt_iff.2 ⟨p, hp, hc, out⟩)

theorem WellFormed.mem_of_cutAt (ht : t.WellFormed) (h : t.CutAt rule n) :
    n ∈ t.walk ∧ n.Redundant rule := by
  obtain ⟨p, kept, hn, out⟩ := ht.cutAt_iff.1 h
  exact ⟨Node.walk_closed ((t.kept_sublist rule).subset kept) hn, out⟩

end Tree

namespace Description

variable {u : UpAxis} {text : String} {d : Description} {t : Tree} {rule : PruneRule}

/-- Just the nodes whose mass is no number are cut off without being light. -/
theorem cutsLight_iff (accepted : (ofText u text).result = .ok d) (h : d.Derives t)
    (nonneg : 0 ≤ rule.massThreshold) :
    (t.CutsLight rule ↔ ∀ n, t.CutAt rule n → n.link.mass.isNaN = false) ∧
    (rule.massThreshold ≤ 0 → ((pruneTree rule t).result = .ok t ↔
      ∀ n, t.CutAt rule n → n.link.mass.isNaN = false)) := by
  have hd := consistent_of_ofText accepted
  have ht := hd.wellFormed_derived h
  have atLeast {n : Node} (cut : t.CutAt rule n) (number : n.link.mass.isNaN = false) :
      0 ≤ n.link.mass := by
    have listed := (hd.drawnFrom_derived h).links n (ht.mem_of_cutAt cut).1
    exact Number.le_of_not_lt (by decide) number (not_negative_of_ofText accepted _ listed)
  constructor
  · constructor
    · exact fun light n cut => (Number.isNaN_of_le (light n cut).1).2
    · intro numbers n cut
      have light := (ht.mem_of_cutAt cut).2.light
      refine ⟨atLeast cut (numbers n cut), ?_⟩
      exact Number.lt_of_not_le (numbers n cut) (Number.isNaN_of_le nonneg).2 light
  · intro zero
    rw [result_pruneTree, Except.ok.injEq, ht.prune_eq_self_iff]
    constructor
    · exact fun whole n cut => absurd cut (whole n)
    · intro numbers n cut
      have light := (ht.mem_of_cutAt cut).2.light
      exact light (Number.le_trans zero (atLeast cut (numbers n cut)))

theorem cutsLight_iff_cell : ∃ d t, (ofText .y cellText).result = .ok d ∧ d.Derives t ∧
    0 ≤ PruneRule.standard.massThreshold ∧ t.CutsLight .standard := by
  obtain ⟨t, h, numbers⟩ : ∃ t, ((ofText .y cellText).result >>= fun d =>
      (d.linkTree d.robotName).result) = .ok t ∧
      t.walk.all (fun n => !n.link.mass.isNaN) = true := by
    rw [ofText_of_read read_cellText]
    exact exists_ok_of_map (by decide +kernel)
  obtain ⟨d, accepted, built⟩ := bind_eq_ok.1 h
  have nonneg : 0 ≤ PruneRule.standard.massThreshold := by decide +kernel
  refine ⟨d, t, accepted, .grown built, nonneg, ?_⟩
  refine (cutsLight_iff accepted (.grown built) nonneg).1.2 fun n cut => ?_
  have ht := (consistent_of_ofText accepted).wellFormed_linkTree built
  simpa using List.all_eq_true.1 numbers n (ht.mem_of_cutAt cut).1

/-- A tag of no mass that could be compared with anything. -/
def unweighedText : String :=
  "<robot name='stand'><link name='base'/><link name='tag'><inertial><mass value='nan'/>" ++
    "</inertial></link><joint name='pin' type='fixed'><parent link='base'/><child link='tag'/>" ++
    "<origin/></joint></robot>"

def unweighedElement : Element :=
  .mk "robot" [⟨"name", "stand"⟩] [
    .mk "link" [⟨"name", "base"⟩] [],
    .mk "link" [⟨"name", "tag"⟩] [.mk "inertial" [] [.mk "mass" [⟨"value", "nan"⟩] []]],
    .mk "joint" [⟨"name", "pin"⟩, ⟨"type", "fixed"⟩] [
      .mk "parent" [⟨"link", "base"⟩] [],
      .mk "child" [⟨"link", "tag"⟩] [],
      .mk "origin" [] []]]

set_option maxRecDepth 100000 in
theorem read_unweighedText : Xml.read unweighedText = .ok unweighedElement :=
  Xml.read_of_toList
    (toList_append_of (toList_append_of String.toList_ofList String.toList_ofList)
      String.toList_ofList)
    (by decide) (by cbv)

theorem not_cutsLight_unweighed : ∃ d t, (ofText .y unweighedText).result = .ok d ∧
    (d.linkTree d.robotName).result = .ok t ∧ t.names = ["base", "tag"] ∧
    (t.prune ⟨0, true⟩).names = ["base"] ∧ ¬t.CutsLight ⟨0, true⟩ := by
  obtain ⟨t, h, shape⟩ : ∃ t, ((ofText .y unweighedText).result >>= fun d =>
      (d.linkTree d.robotName).result) = .ok t ∧
      (t.names, (t.prune ⟨0, true⟩).names, t.root.name,
        t.root.children.map fun n => (n.name, n.link.mass.isNaN)) =
      (["base", "tag"], ["base"], "base", [("tag", true)]) := by
    rw [ofText_of_read read_unweighedText]
    exact exists_ok_of_map (by decide +kernel)
  obtain ⟨d, accepted, built⟩ := bind_eq_ok.1 h
  simp only [Prod.mk.injEq] at shape
  obtain ⟨before, after, top, children⟩ := shape
  refine ⟨d, t, accepted, built, before, after, fun light => ?_⟩
  obtain ⟨n, rest, listed, tag, -⟩ := List.map_eq_cons_iff.1 children
  obtain ⟨name, unweighed⟩ := Prod.mk.inj tag
  have cut : t.CutAt ⟨0, true⟩ n := by
    refine ⟨t.root, Node.self_mem_walk t.root, ?_, ?_, ?_⟩
    · rw [listed]
      exact List.mem_cons_self
    · rw [after, top]
      exact List.mem_cons_self
    · rw [after, name]
      decide
  have number := (Number.isNaN_of_le (light n cut).1).2
  rw [unweighed] at number
  contradiction

end Description

end Articulation
