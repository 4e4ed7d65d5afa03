import Articulation.Proofs.Spanning
/-!
The tree of all links. The search for the root and the growing of the tree succeed just in case the
joints span a tree of the links, and `Refusal` says what is wrong otherwise.
-/
set_option autoImplicit false

namespace Articulation

namespace Description

/-- The tree of the links, before anything is removed from it or attached to it. -/
def linkTree (d : Description) (robotName : String) : Traced DescriptionError Tree := do
  let root ← findRoot d.links d.joints
  buildTree d.links d.joints root robotName

/-- Every link is a node just once, with the joint that claims it if there is one. -/
structure CreatedOnce (d : Description) (r : String) (t : Tree) : Prop where
  root_name : t.root.name = r
  names : t.names.Perm d.links.names
  one_root : t.walk.filter Node.isRoot = [t.root]
  links : ∀ n ∈ t.walk, n.link ∈ d.links.values
  claims : ∀ n ∈ t.walk, ∀ j, n.joint = some j ↔ j ∈ d.joints.values ∧ j.child = n.name
  children : ∀ n ∈ t.walk, n.children.map Node.name = d.childLinks n.name
  order : d.Serves [r] t.names

open Classical in
/-- Why links and joints form no tree. -/
inductive Refusal (d : Description) : DescriptionError → Prop where
  | noRoot (none : d.unclaimedLinks = []) : Refusal d .noRoot
  | severalRoots {first second : String} {others : List String}
      (several : d.unclaimedLinks = first :: second :: others) :
      Refusal d (.severalRoots first second others)
  | unreachable {r first : String} {others : List String} (root : d.unclaimedLinks = [r])
      (lost : d.links.names.filter (fun name => ¬d.Climbs r name) = first :: others) :
      Refusal d (.unreachable r first others)

variable {d : Description}

theorem Consistent.checkJoints_eq (hd : d.Consistent) :
    checkJoints d.links d.joints.entries = .ok () := by
  have sound (js : List (String × Joint))
      (h : ∀ e ∈ js, e.1 ∈ d.links.names ∧ e.2.parent ∈ d.links.names) :
      checkJoints d.links js = .ok () := by
    induction js with
    | nil => rfl
    | cons e js ih =>
      obtain ⟨hchild, hparent⟩ := h e List.mem_cons_self
      rw [← Roster.contains_iff] at hchild hparent
      simp only [checkJoints, hchild, hparent]
      exact ih fun e he => h e (List.mem_cons_of_mem _ he)
  refine sound _ fun e he => ⟨?_, hd.parent_listed e he⟩
  rw [← hd.joint_listed e he]
  exact hd.child_listed e he

theorem Consistent.findRoot_eq (hd : d.Consistent) :
    findRoot d.links d.joints = match d.unclaimedLinks with
      | [] => .error .noRoot
      | [root] => .ok root
      | first :: second :: others => .error (.severalRoots first second others) := by
  rw [← hd.unclaimed_eq]
  rfl

theorem Consistent.result_linkTree (hd : d.Consistent) {root : Link} (hl : root ∈ d.links.values)
    (unclaimed : d.unclaimedLinks = [root.name]) (robotName : String) :
    (d.linkTree robotName).result =
      let tree := d.treeBelow robotName root
      match d.links.names.filter fun name => !tree.names.contains name with
      | first :: others => .error (.unreachable root.name first others)
      | [] => .ok tree := by
  have found := hd.find?_link.2 ⟨hl, rfl⟩
  have free := find?_joint_root hd unclaimed
  unfold linkTree buildTree
  rw [hd.findRoot_eq, unclaimed]
  simp only [Traced.result_bind, Traced.result_liftM, ok_bind, found, free, hd.checkJoints_eq,
    Traced.result_record]
  unfold treeBelow edges
  cases d.links.names.filter fun name =>
    !(Tree.mk robotName (grow (Articulation.edges d.links d.joints) d.links.size root
      none)).names.contains name
  · rfl
  · rfl

theorem createdOnce_treeBelow {root : Link} (hd : d.Consistent) (hl : root ∈ d.links.values)
    (spans : d.Spans root.name) (robotName : String) :
    d.CreatedOnce root.name (d.treeBelow robotName root) := by
  have unclaimed := spans.unclaimed
  have walked := Node.walk_eq (d.treeBelow robotName root).root
  have free : (d.treeBelow robotName root).root.joint = none := joint_grow _ _ _ _
  have top : (d.treeBelow robotName root).root.link = root := link_grow _ _ _ _
  constructor
  · exact congrArg Link.name top
  · refine (List.perm_ext_iff_of_nodup (names_treeBelow_nodup hd unclaimed robotName)
      hd.links_nodup).2 fun name => ?_
    rw [mem_names_treeBelow hd unclaimed]
    constructor
    · intro climbs
      cases climbs with
      | here => exact root_mem unclaimed
      | up listed _ => exact hd.child_mem listed
    · exact spans.climbs name
  · unfold Tree.walk
    rw [walked, List.filter_cons_of_pos (by rw [Node.isRoot, free]; rfl), List.cons.injEq]
    refine ⟨rfl, List.filter_eq_nil_iff.2 fun n hn => ?_⟩
    obtain ⟨e, -, -, joint⟩ := mem_below_treeBelow hn
    simp [Node.isRoot, joint]
  · intro n hn
    rw [Tree.walk, walked, List.mem_cons] at hn
    rcases hn with rfl | below
    · rwa [top]
    · obtain ⟨e, he, link, -⟩ := mem_below_treeBelow below
      rw [link]
      exact (hd.mem_edges.1 he).1
  · intro n hn j
    rw [← hd.find?_joint]
    rw [Tree.walk, walked, List.mem_cons] at hn
    rcases hn with rfl | below
    · rw [free, Node.name, top, find?_joint_root hd unclaimed]
    · obtain ⟨e, he, link, joint⟩ := mem_below_treeBelow below
      obtain ⟨-, listed, claims⟩ := hd.mem_edges.1 he
      rw [joint, Node.name, link, hd.find?_joint.2 ⟨listed, claims⟩]
  · exact fun n hn => names_children_treeBelow hd unclaimed hn
  · exact serves_treeBelow hd unclaimed robotName

open Classical in
theorem left_out_eq {root : Link} (hd : d.Consistent) (unclaimed : d.unclaimedLinks = [root.name])
    (robotName : String) :
    (d.links.names.filter fun name => !(d.treeBelow robotName root).names.contains name) =
      d.links.names.filter fun name => ¬d.Climbs root.name name := by
  refine List.filter_congr fun name _ => ?_
  rw [Bool.eq_iff_iff, Bool.not_eq_true', ← Bool.not_eq_true, List.contains_iff_mem,
    mem_names_treeBelow hd unclaimed, decide_eq_true_iff]

theorem Consistent.root_of_unclaimed (hd : d.Consistent) {r : String}
    (unclaimed : d.unclaimedLinks = [r]) : ∃ root ∈ d.links.values, root.name = r := by
  have listed : r ∈ d.unclaimedLinks := by simp [unclaimed]
  have h := List.mem_of_mem_filter listed
  rwa [hd.names_links, List.mem_map] at h

theorem Consistent.linkTree_outcome (hd : d.Consistent) (robotName : String) :
    (∃ root ∈ d.links.values, d.Spans root.name ∧
        (d.linkTree robotName).result = .ok (d.treeBelow robotName root)) ∨
      ∃ e, d.Refusal e ∧ (d.linkTree robotName).result = .error e := by
  match unclaimed : d.unclaimedLinks with
  | [] =>
    refine .inr ⟨_, .noRoot unclaimed, ?_⟩
    simp [linkTree, hd.findRoot_eq, unclaimed]
  | first :: second :: others =>
    refine .inr ⟨_, .severalRoots unclaimed, ?_⟩
    simp [linkTree, hd.findRoot_eq, unclaimed]
  | [r] =>
    obtain ⟨root, hl, rfl⟩ := hd.root_of_unclaimed unclaimed
    have result := hd.result_linkTree hl unclaimed robotName
    have missing := left_out_eq hd unclaimed robotName
    simp only at result
    split at result
    next first others lost =>
      rw [lost] at missing
      exact .inr ⟨_, .unreachable unclaimed missing.symm, result⟩
    next none_lost =>
      rw [none_lost, eq_comm, List.filter_eq_nil_iff] at missing
      refine .inl ⟨root, hl, ⟨unclaimed, fun name listed => ?_⟩, result⟩
      simpa using missing name listed

theorem Refusal.unique {e e' : DescriptionError} (h : d.Refusal e) (h' : d.Refusal e') :
    e = e' := by
  cases h <;> cases h' <;> grind

theorem Spans.not_refusal {r : String} (h : d.Spans r) (e : DescriptionError) :
    ¬d.Refusal e := by
  have unclaimed := h.unclaimed
  intro refusal
  cases refusal with
  | noRoot none => simp [unclaimed] at none
  | severalRoots several => simp [unclaimed] at several
  | unreachable root lost =>
    obtain rfl : r = _ := by simpa [unclaimed] using root
    have first := List.mem_filter.1 (lost ▸ List.mem_cons_self)
    exact absurd (h.climbs _ first.1) (by simpa using first.2)

theorem Consistent.linkTree_ok (hd : d.Consistent) {robotName : String} {t : Tree}
    (h : (d.linkTree robotName).result = .ok t) :
    ∃ root ∈ d.links.values, d.Spans root.name ∧ t = d.treeBelow robotName root := by
  rcases hd.linkTree_outcome robotName with ⟨root, hl, spans, result⟩ | ⟨e, _, result⟩
  · rw [result] at h
    exact ⟨root, hl, spans, (Except.ok.inj h).symm⟩
  · rw [result] at h
    contradiction

theorem Consistent.linkTree_error (hd : d.Consistent) (robotName : String)
    (e : DescriptionError) : (d.linkTree robotName).result = .error e ↔ d.Refusal e := by
  rcases hd.linkTree_outcome robotName with ⟨root, _, spans, result⟩ | ⟨e', refusal, result⟩
  · rw [result]
    exact ⟨fun h => by contradiction, fun h => absurd h (spans.not_refusal e)⟩
  · rw [result, Except.error.injEq]
    exact ⟨fun h => h ▸ refusal, fun h => refusal.unique h⟩

theorem Refusal.kind {e : DescriptionError} (h : d.Refusal e) :
    e.kind = if d.unclaimedLinks.length = 1 then .malformedDescription else .ambiguousRoot := by
  cases h with
  | noRoot none => simp [none, DescriptionError.kind]
  | severalRoots several => simp [several, DescriptionError.kind]
  | unreachable root _ => simp [root, DescriptionError.kind]

/-- Links and joints that are read from a text give a tree just in case they span one, and what
stands in the way otherwise is named. -/
theorem linkTree_ofText {u : UpAxis} {text : String} {d : Description}
    (accepted : (ofText u text).result = .ok d) (robotName : String) :
    ((∃ t, (d.linkTree robotName).result = .ok t) ↔ ∃ r, d.Spans r) ∧
    (∀ t, (d.linkTree robotName).result = .ok t →
      d.links.size = d.joints.size + 1 ∧ ∃ r, d.Spans r ∧ d.CreatedOnce r t) ∧
    (∀ e, (d.linkTree robotName).result = .error e ↔ d.Refusal e) ∧
    (∀ e, d.Refusal e →
      e.kind = if d.unclaimedLinks.length = 1 then .malformedDescription else .ambiguousRoot) ∧
    (∀ r, d.unclaimedLinks = [r] →
      (d.Spans r ↔ ¬d.Cyclic) ∧
      ∃ taken, d.Serves [r] taken ∧ ∀ name, name ∈ taken ↔ d.Climbs r name) := by
  have hd := consistent_of_ofText accepted
  refine ⟨⟨?_, ?_⟩, ?_, hd.linkTree_error robotName, fun e h => h.kind, ?_⟩
  · rintro ⟨t, h⟩
    obtain ⟨root, _, spans, _⟩ := hd.linkTree_ok h
    exact ⟨root.name, spans⟩
  · rintro ⟨r, spans⟩
    rcases hd.linkTree_outcome robotName with ⟨root, _, _, result⟩ | ⟨e, refusal, _⟩
    · exact ⟨_, result⟩
    · exact absurd refusal (spans.not_refusal e)
  · intro t h
    obtain ⟨root, hl, spans, rfl⟩ := hd.linkTree_ok h
    exact ⟨size_links hd spans.unclaimed, root.name, spans,
      createdOnce_treeBelow hd hl spans robotName⟩
  · intro r unclaimed
    obtain ⟨root, hl, rfl⟩ := hd.root_of_unclaimed unclaimed
    refine ⟨?_, _, serves_treeBelow hd unclaimed robotName,
      fun name => mem_names_treeBelow hd unclaimed⟩
    rw [← all_climb_iff hd unclaimed]
    exact ⟨fun spans => spans.climbs, fun climbs => ⟨unclaimed, climbs⟩⟩

theorem linkTree_ofText_namesakeText : ∃ d t, (ofText .y namesakeText).result = .ok d ∧
    (d.linkTree d.robotName).result = .ok t ∧ t.names = ["base", "arm"] ∧
    d.links.size = d.joints.size + 1 ∧ ∃ r, d.Spans r ∧ d.CreatedOnce r t := by
  obtain ⟨t, h, names⟩ : ∃ t, ((ofText .y namesakeText).result >>= fun d =>
      (d.linkTree d.robotName).result) = .ok t ∧ t.names = ["base", "arm"] := by
    rw [ofText_namesakeText]
    exact exists_ok_of_map (by decide +kernel)
  obtain ⟨d, accepted, built⟩ := bind_eq_ok.1 h
  exact ⟨d, t, accepted, built, names, (linkTree_ofText accepted d.robotName).2.1 t built⟩

end Description

end Articulation
