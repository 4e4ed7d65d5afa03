import Articulation.Proofs.Histories
/-!
What collision meshes a tree comes to bear. An association asks for the mesh of every node that has
a visual one, and attaches what it finds. What it does not find it leaves alone, so a node may bear
what an earlier association has found for it.
-/
set_option autoImplicit false

namespace Articulation

variable {source : CollisionSource} {lookup : Option Lookup} {required : Bool}

/-- The collision mesh that there is under an identifier. -/
def resolve (lookup : Option Lookup) (identifier : String) : Option String :=
  match lookup with
  | none => some identifier
  | some find => find identifier

def query (lookup : Option Lookup) (identifier : String) : List Event :=
  match lookup with
  | none => []
  | some _ => [.collisionQuery identifier]

/-- What an association has for a link. -/
def geometryFor (source : CollisionSource) (lookup : Option Lookup) (l : Link) :
    Option CollisionGeometry :=
  if l.hasMesh then
    (collisionIdentifier? l.asset source).bind fun identifier =>
      (resolve lookup identifier).map fun asset => ⟨asset, source⟩
  else none

theorem geometryFor_of_unlooked {l : Link} (nothing : geometryFor source none l = none)
    (other : CollisionSource) (lookup : Option Lookup) : geometryFor other lookup l = none := by
  unfold geometryFor at nothing ⊢
  split at nothing
  next hasMesh =>
    have nameless : (AssetPath.ofString l.asset).name? = none := by
      rw [Option.eq_none_iff_forall_ne_some]
      simpa [collisionIdentifier?, AssetPath.withName?, resolve] using nothing
    simp [hasMesh, collisionIdentifier?, AssetPath.withName?, nameless]
  next bare => rw [if_neg bare]

def Event.asked? : Event → Option String
  | .collisionQuery identifier => some identifier
  | _ => none

/-- The identifiers that a lookup of collision meshes was asked for, in the order of the questions. -/
def asked (events : List Event) : List String := events.filterMap Event.asked?

section Nodes

variable {count : Nat} {n : Node} {ns : List Node} {identifier : String}

theorem geometryFor_eq (hasMesh : n.link.hasMesh = true)
    (named : collisionIdentifier? n.link.asset source = some identifier) :
    geometryFor source lookup n.link =
      (resolve lookup identifier).map fun asset => ⟨asset, source⟩ := by
  rw [geometryFor, if_pos hasMesh, named, Option.bind_some]

theorem associateNodes_meshless (bare : n.link.hasMesh = false) :
    associateNodes source lookup required count (n :: ns) =
      associateNodes source lookup required count ns := by
  simp [associateNodes, bare]

theorem associateNodes_nameless (hasMesh : n.link.hasMesh = true)
    (nameless : collisionIdentifier? n.link.asset source = none) :
    associateNodes source lookup required count (n :: ns) =
      ⟨[], [], some (.namelessAsset n.link.asset)⟩ := by
  simp [associateNodes, hasMesh, nameless]

theorem associateNodes_named (hasMesh : n.link.hasMesh = true)
    (named : collisionIdentifier? n.link.asset source = some identifier) :
    associateNodes source lookup required count (n :: ns) =
      match resolve lookup identifier with
      | some asset =>
        (associateNodes source lookup required (count + 1) ns).prepend
          (query lookup identifier ++ [attachedNote asset n.name]) [(n.name, ⟨asset, source⟩)]
      | none =>
        if required then
          ⟨[], query lookup identifier,
            some (.description (.missingCollision identifier n.name))⟩
        else
          (associateNodes source lookup required count ns).prepend
            (query lookup identifier ++ [absentNote identifier n.name]) [] := by
  cases lookup <;> simp only [associateNodes, hasMesh, named, resolve, query] <;> rfl

def geometriesFor (source : CollisionSource) (lookup : Option Lookup) (ns : List Node) :
    List (String × CollisionGeometry) :=
  ns.filterMap fun n => (geometryFor source lookup n.link).map fun g => (n.name, g)

theorem geometriesFor_cons (n : Node) (ns : List Node) :
    geometriesFor source lookup (n :: ns) =
      geometriesFor source lookup [n] ++ geometriesFor source lookup ns := by
  unfold geometriesFor
  rw [← List.filterMap_append, List.singleton_append]

/-- What a run that goes on behind a node has done for it. -/
theorem associateNodes_cons_ok
    (ok : (associateNodes source lookup required count (n :: ns)).failure = none) :
    ∃ count' events, associateNodes source lookup required count (n :: ns) =
        (associateNodes source lookup required count' ns).prepend events
          (geometriesFor source lookup [n]) ∧
      (lookup.isSome = true → (asked events).map some =
        (meshNodes [n]).map fun n => collisionIdentifier? n.link.asset source) := by
  cases hasMesh : n.link.hasMesh with
  | false =>
    have nothing : geometriesFor source lookup [n] = [] := by
      simp [geometriesFor, geometryFor, hasMesh]
    refine ⟨count, [], ?_, fun _ => by simp [asked, meshNodes, hasMesh]⟩
    rw [associateNodes_meshless hasMesh, nothing]
    rfl
  | true =>
    cases named : collisionIdentifier? n.link.asset source with
    | none =>
      rw [associateNodes_nameless hasMesh named] at ok
      contradiction
    | some identifier =>
      have questions (note : Event) (silent : note.asked? = none) (looked : lookup.isSome = true) :
          (asked (query lookup identifier ++ [note])).map some =
            (meshNodes [n]).map fun n => collisionIdentifier? n.link.asset source := by
        obtain ⟨find, rfl⟩ := Option.isSome_iff_exists.1 looked
        have asks : (Event.collisionQuery identifier).asked? = some identifier := rfl
        simp [asked, query, meshNodes, hasMesh, named, silent, asks]
      rw [associateNodes_named hasMesh named] at ok ⊢
      cases found : resolve lookup identifier with
      | some asset =>
        have bears : geometriesFor source lookup [n] = [(n.name, ⟨asset, source⟩)] := by
          simp [geometriesFor, geometryFor_eq hasMesh named, found]
        exact ⟨count + 1, _, by rw [bears], questions _ rfl⟩
      | none =>
        have nothing : geometriesFor source lookup [n] = [] := by
          simp [geometriesFor, geometryFor_eq hasMesh named, found]
        rw [found] at ok
        cases required with
        | true => contradiction
        | false => exact ⟨count, _, by rw [nothing]; rfl, questions _ rfl⟩

theorem attached_of_ok (ok : (associateNodes source lookup required count ns).failure = none) :
    (associateNodes source lookup required count ns).attached =
      geometriesFor source lookup ns := by
  induction ns generalizing count with
  | nil => rfl
  | cons n ns ih =>
    obtain ⟨count', events, same, -⟩ := associateNodes_cons_ok ok
    rw [same] at ok ⊢
    rw [geometriesFor_cons n ns, ← ih ok]
    rfl

theorem lookup_geometriesFor (distinct : (ns.map Node.name).Nodup) (hn : n ∈ ns) :
    (geometriesFor source lookup ns).lookup n.name = geometryFor source lookup n.link := by
  induction ns with
  | nil => simp at hn
  | cons m ns ih =>
    rw [List.map_cons, List.nodup_cons] at distinct
    rw [geometriesFor, List.filterMap_cons]
    rcases List.mem_cons.1 hn with rfl | later
    · cases found : geometryFor source lookup n.link with
      | some g => simp
      | none =>
        -- no other node has the name, so there is nothing under it
        rw [Option.map_none, List.lookup_eq_none_iff]
        intro p hp
        obtain ⟨m, hm, same⟩ := List.mem_filterMap.1 hp
        obtain ⟨g, -, rfl⟩ := Option.map_eq_some_iff.1 same
        have other : n.name ≠ m.name := fun same => distinct.1 (same ▸ List.mem_map_of_mem hm)
        simpa using other
    · have other : n.name ≠ m.name := fun same =>
        distinct.1 (same ▸ List.mem_map_of_mem later)
      have rest := ih distinct.2 later
      cases geometryFor source lookup m.link with
      | none => exact rest
      | some g =>
        rw [Option.map_some]
        simp only [List.lookup_cons, beq_eq_false_iff_ne.2 other]
        exact rest

theorem asked_query (find : Lookup) (identifier : String) :
    asked (query (some find) identifier) = [identifier] := rfl

theorem exists_of_isSome_geometryFor (found : (geometryFor source lookup n.link).isSome = true) :
    n.link.hasMesh = true ∧ ∃ identifier, collisionIdentifier? n.link.asset source = some identifier ∧
      ∃ asset, resolve lookup identifier = some asset := by
  obtain ⟨g, found⟩ := Option.isSome_iff_exists.1 found
  unfold geometryFor at found
  split at found
  next hasMesh =>
    obtain ⟨identifier, named, found⟩ := Option.bind_eq_some_iff.1 found
    obtain ⟨asset, resolved, -⟩ := Option.map_eq_some_iff.1 found
    exact ⟨hasMesh, identifier, named, asset, resolved⟩
  next => contradiction

theorem failure_lenient (named : ∀ n ∈ ns, n.link.MeshNamed) :
    (associateNodes source lookup false count ns).failure = none := by
  induction ns generalizing count with
  | nil => rfl
  | cons n ns ih =>
    have rest {count : Nat} := @ih count fun m hm => named m (List.mem_cons_of_mem n hm)
    cases hasMesh : n.link.hasMesh with
    | false =>
      rw [associateNodes_meshless hasMesh]
      exact rest
    | true =>
      obtain ⟨identifier, named⟩ :=
        exists_collisionIdentifier (named n List.mem_cons_self) hasMesh source
      rw [associateNodes_named hasMesh named]
      cases resolve lookup identifier <;> exact rest

theorem asked_unlooked : asked (associateNodes source none required count ns).events = [] := by
  induction ns generalizing count with
  | nil => rfl
  | cons n ns ih =>
    cases hasMesh : n.link.hasMesh with
    | false =>
      rw [associateNodes_meshless hasMesh]
      exact ih
    | true =>
      cases named : collisionIdentifier? n.link.asset source with
      | none =>
        rw [associateNodes_nameless hasMesh named]
        rfl
      | some identifier =>
        rw [associateNodes_named hasMesh named]
        exact ih

/-- Nobody is asked twice about a node, and about no node without a mesh. -/
theorem asked_of_ok (looked : lookup.isSome = true)
    (ok : (associateNodes source lookup required count ns).failure = none) :
    (asked (associateNodes source lookup required count ns).events).map some =
      (meshNodes ns).map fun n => collisionIdentifier? n.link.asset source := by
  induction ns generalizing count with
  | nil => rfl
  | cons n ns ih =>
    obtain ⟨count', events, same, questions⟩ := associateNodes_cons_ok ok
    have split : meshNodes (n :: ns) = meshNodes [n] ++ meshNodes ns :=
      List.filter_append [n] ns
    rw [same] at ok ⊢
    rw [split, List.map_append, ← questions looked, ← ih ok, ← List.map_append]
    exact congrArg _ (List.filterMap_append ..)

theorem associateNodes_strict
    (found : ∀ n ∈ meshNodes ns, (geometryFor source lookup n.link).isSome = true) :
    associateNodes source lookup true count ns = associateNodes source lookup false count ns := by
  rw [← associateNodes_meshNodes count ns, ← associateNodes_meshNodes count ns]
  generalize meshNodes ns = ms at found ⊢
  induction ms generalizing count with
  | nil => rfl
  | cons n ns ih =>
    have rest (count : Nat) := @ih count fun m hm => found m (List.mem_cons_of_mem n hm)
    obtain ⟨hasMesh, identifier, named, asset, resolved⟩ :=
      exists_of_isSome_geometryFor (found n List.mem_cons_self)
    rw [associateNodes_named hasMesh named, associateNodes_named hasMesh named, resolved]
    simp only [rest]

theorem associateNodes_refuses (count : Nat) {find : Lookup} {before after : List Node}
    (hasMesh : n.link.hasMesh = true)
    (named : collisionIdentifier? n.link.asset source = some identifier)
    (absent : resolve (some find) identifier = none) (split : meshNodes ns = before ++ n :: after)
    (found : ∀ m ∈ before, (geometryFor source (some find) m.link).isSome = true) :
    (associateNodes source (some find) true count ns).failure =
        some (.description (.missingCollision identifier n.name)) ∧
      (asked (associateNodes source (some find) true count ns).events).map some =
        (before ++ [n]).map fun m => collisionIdentifier? m.link.asset source := by
  rw [← associateNodes_meshNodes, split]
  clear split
  induction before generalizing count with
  | nil =>
    rw [List.nil_append, associateNodes_named hasMesh named]
    rw [absent, if_pos rfl]
    refine ⟨rfl, ?_⟩
    rw [asked_query, List.map_singleton, List.nil_append, List.map_singleton, named]
  | cons m before ih =>
    obtain ⟨failed, questions⟩ :=
      ih (count + 1) fun m' hm => found m' (List.mem_cons_of_mem m hm)
    obtain ⟨solid, identifier', named', asset, resolved⟩ :=
      exists_of_isSome_geometryFor (found m List.mem_cons_self)
    rw [List.cons_append, associateNodes_named solid named', resolved]
    refine ⟨failed, ?_⟩
    rw [List.cons_append, List.map_cons, named', ← questions]
    rfl

end Nodes

namespace Tree

variable {t u : Tree}

theorem collision_attach (distinct : t.names.Nodup)
    (ok : (associate source lookup required t).failure = none) {n : Node} (hn : n ∈ t.walk) :
    (n.attach (associate source lookup required t).attached).collision =
      (geometryFor source lookup n.link).or n.collision := by
  rw [Node.collision_attach, associate, attached_of_ok ok]
  exact congrArg (Option.or · n.collision) (lookup_geometriesFor distinct hn)

end Tree

/-- Nodes that differ in nothing but the collision meshes that they and those below them bear. -/
structure Node.Alike (m n : Node) : Prop where
  link : n.link = m.link
  joint : n.joint = m.joint
  children : n.children.map Node.name = m.children.map Node.name

theorem Node.alike_attach (geometry : List (String × CollisionGeometry)) (n : Node) :
    n.Alike (n.attach geometry) := by
  have attached := Node.thins_attach geometry
  refine ⟨attached.link n, attached.joint n, ?_⟩
  rw [attached.children, List.filter_true, List.map_map]
  exact List.map_congr_left fun c _ => attached.name c

namespace Tree

structure Alike (t u : Tree) : Prop where
  robotName : u.robotName = t.robotName
  nodes : List.Forall₂ Node.Alike t.walk u.walk
  registry : List.Forall₂ (fun e e' => e'.1 = e.1 ∧ e.2.Alike e'.2) t.registry.entries
    u.registry.entries

/-- What an association makes of a tree that bears nothing yet. -/
structure Associates (source : CollisionSource) (lookup : Option Lookup) (t : Tree) : Prop where
  attaches : ∃ u, (associateCollisions source lookup false t).result = .ok u ∧
    u.walk.map Node.collision = t.walk.map fun n => geometryFor source lookup n.link
  silent : lookup = none → ∀ required,
    asked (associateCollisions source lookup required t).events = []
  asks : ∀ find, lookup = some find →
    (asked (associateCollisions source lookup false t).events).map some =
      (meshNodes t.walk).map fun n => collisionIdentifier? n.link.asset source
  fails_iff : (∃ f, (associateCollisions source lookup true t).result = .error f) ↔
    ∃ n ∈ meshNodes t.walk, geometryFor source lookup n.link = none
  blames : ∀ before n after, meshNodes t.walk = before ++ n :: after →
    (∀ m ∈ before, (geometryFor source lookup m.link).isSome = true) →
    geometryFor source lookup n.link = none →
    (∃ identifier, collisionIdentifier? n.link.asset source = some identifier ∧
      (associateCollisions source lookup true t).result =
        .error (.description (.missingCollision identifier n.name))) ∧
    (asked (associateCollisions source lookup true t).events).map some =
      (before ++ [n]).map fun m => collisionIdentifier? m.link.asset source
  agrees : (∀ n ∈ meshNodes t.walk, (geometryFor source lookup n.link).isSome = true) →
    associateCollisions source lookup true t = associateCollisions source lookup false t
  alike : ∀ required, t.Alike ((associate source lookup required t).apply t)
  /-- What is left of the tree is what is returned, if the association does not fail. -/
  returns : ∀ required u, (associateCollisions source lookup required t).result = .ok u →
    u = (associate source lookup required t).apply t

variable {t : Tree}

theorem alike_attach (distinct : t.names.Nodup) (geometry : List (String × CollisionGeometry)) :
    t.Alike (t.attach geometry) := by
  have thin := Node.thins_attach geometry
  have distinct' := distinct.sublist (names_thin_sublist thin t)
  have each (ns : List Node) : List.Forall₂ Node.Alike ns (ns.map (Node.attach geometry)) :=
    List.forall₂_map_right_iff.2 (List.forall₂_same.2 fun n _ => n.alike_attach geometry)
  have nodes : List.Forall₂ Node.Alike t.walk (t.attach geometry).walk := by
    rw [walk_attach]
    exact each t.walk
  refine ⟨rfl, nodes, ?_⟩
  rw [entries_registry distinct, entries_registry (t := t.attach geometry) distinct',
    List.forall₂_map_left_iff, List.forall₂_map_right_iff]
  exact nodes.imp fun m n alike => ⟨congrArg Link.name alike.link, alike⟩

theorem strict_eq_lenient
    (found : ∀ n ∈ meshNodes t.walk, (geometryFor source lookup n.link).isSome = true) :
    associateCollisions source lookup true t = associateCollisions source lookup false t := by
  have same : associate source lookup true t = associate source lookup false t :=
    associateNodes_strict found
  unfold associateCollisions
  rw [same]

theorem strict_blames (named : ∀ n ∈ t.walk, n.link.MeshNamed) {before after : List Node}
    {n : Node} (split : meshNodes t.walk = before ++ n :: after)
    (found : ∀ m ∈ before, (geometryFor source lookup m.link).isSome = true)
    (absent : geometryFor source lookup n.link = none) :
    (∃ identifier, collisionIdentifier? n.link.asset source = some identifier ∧
      (associateCollisions source lookup true t).result =
        .error (.description (.missingCollision identifier n.name))) ∧
    (asked (associateCollisions source lookup true t).events).map some =
      (before ++ [n]).map fun m => collisionIdentifier? m.link.asset source := by
  have listed : n ∈ meshNodes t.walk := by simp [split]
  obtain ⟨hn, hasMesh⟩ := List.mem_filter.1 listed
  obtain ⟨identifier, name⟩ := exists_collisionIdentifier (named n hn) hasMesh source
  rw [geometryFor_eq hasMesh name, Option.map_eq_none_iff] at absent
  cases lookup with
  | none => contradiction
  | some find =>
    obtain ⟨failed, questions⟩ := associateNodes_refuses 0 hasMesh name absent split found
    refine ⟨⟨identifier, name, ?_⟩, questions⟩
    simp only [associateCollisions, associate, failed]

theorem WellFormed.associates (ht : t.WellFormed) (plain : ∀ n ∈ t.walk, n.collision = none)
    (source : CollisionSource) (lookup : Option Lookup) : t.Associates source lookup := by
  have named := ht.mesh_named
  have lenient : (associate source lookup false t).failure = none := failure_lenient named
  have ok : (associateCollisions source lookup false t).result =
      .ok ((associate source lookup false t).apply t) := by
    simp [associateCollisions, lenient]
  constructor
  · refine ⟨_, ok, ?_⟩
    rw [Association.apply, walk_attach, List.map_map]
    refine List.map_congr_left fun n hn => ?_
    rw [Function.comp, collision_attach ht.distinct lenient hn, plain n hn, Option.or_none]
  · rintro rfl required
    exact asked_unlooked
  · rintro find rfl
    exact asked_of_ok rfl lenient
  · constructor
    · rintro ⟨f, failed⟩
      by_contra none_absent
      rw [strict_eq_lenient, ok] at failed
      · contradiction
      · intro n hn
        rw [Option.isSome_iff_ne_none]
        exact fun absent => none_absent ⟨n, hn, absent⟩
    · rintro ⟨n, hn, absent⟩
      -- the first of these nodes is the one that is blamed
      have some_absent : ((meshNodes t.walk).find? fun n =>
          (geometryFor source lookup n.link).isNone).isSome = true :=
        List.find?_isSome.2 ⟨n, hn, by rw [absent]; rfl⟩
      obtain ⟨m, first⟩ := Option.isSome_iff_exists.1 some_absent
      obtain ⟨absent, before, after, split, found⟩ := List.find?_eq_some_iff_append.1 first
      obtain ⟨⟨identifier, -, failed⟩, -⟩ := strict_blames named split
        (fun k hk => by simpa using found k hk) (by simpa using absent)
      exact ⟨_, failed⟩
  · exact fun before n after split found absent => strict_blames named split found absent
  · exact strict_eq_lenient
  · exact fun required => alike_attach ht.distinct _
  · exact fun required u made => (associateCollisions_ok made).2

end Tree

namespace Stage

/-- What a stage has for a link; a pruning has nothing. -/
def found : Stage → Link → Option CollisionGeometry
  | prune _, _ => none
  | associate source lookup _, l => geometryFor source lookup l

variable (stage : Stage) {t u : Tree}

theorem eq_leaves_of_run (h : stage.run t = .ok u) : u = stage.leaves t := by
  cases stage with
  | prune rule => exact (Except.ok.inj h).symm
  | associate source lookup required => exact (associateCollisions_ok h).2

theorem names_nodup_run (h : stage.run t = .ok u) (distinct : t.names.Nodup) :
    u.names.Nodup := by
  obtain ⟨keep, f, hf, leaves⟩ := stage.exists_thins t
  rw [stage.eq_leaves_of_run h, leaves]
  exact distinct.sublist (Tree.names_thin_sublist hf t)

theorem collision_run (h : stage.run t = .ok u) (distinct : t.names.Nodup) :
    ∀ n ∈ u.walk, ∃ m ∈ t.walk, m.link = n.link ∧
      n.collision = (stage.found n.link).or m.collision := by
  intro n hn
  obtain rfl := stage.eq_leaves_of_run h
  cases stage with
  | prune rule =>
    obtain ⟨m, hm, rfl⟩ := (Node.thins_prune rule).exists_of_mem_walk hn
    exact ⟨m, hm, ((Node.thins_prune rule).link m).symm, Node.collision_prune rule m⟩
  | associate source lookup required =>
    obtain ⟨ok, -⟩ := associateCollisions_ok h
    obtain ⟨m, hm, rfl⟩ := (Node.thins_attach _).exists_of_mem_walk hn
    have link := (Node.thins_attach (Articulation.associate source lookup required t).attached).link m
    refine ⟨m, hm, link.symm, ?_⟩
    rw [link]
    exact Tree.collision_attach distinct ok hm

end Stage

section Histories

variable {stages : List Stage} {t u v : Tree}

/-- What a node bears is what the last stage has found that found anything for it. -/
theorem collision_runAll (h : runAll stages t = .ok u) (distinct : t.names.Nodup) :
    u.names.Nodup ∧ ∀ n ∈ u.walk, ∃ m ∈ t.walk, m.link = n.link ∧
      n.collision = (stages.reverse.findSome? (·.found n.link)).or m.collision := by
  induction stages generalizing t with
  | nil =>
    cases h
    exact ⟨distinct, fun n hn => ⟨n, hn, rfl, rfl⟩⟩
  | cons stage stages ih =>
    obtain ⟨s, first, h⟩ := bind_eq_ok.1 h
    obtain ⟨distinct', later⟩ := ih h (stage.names_nodup_run first distinct)
    refine ⟨distinct', fun n hn => ?_⟩
    obtain ⟨k, hk, link, bears⟩ := later n hn
    obtain ⟨m, hm, link', bore⟩ := stage.collision_run first distinct k hk
    refine ⟨m, hm, link'.trans link, ?_⟩
    rw [bears, bore, link, List.reverse_cons, List.findSome?_append, Option.or_assoc]
    simp

/-- Every node bears what the association has for its link. -/
def Tree.DecidedBy (source : CollisionSource) (lookup : Option Lookup) (t : Tree) : Prop :=
  ∀ n ∈ t.walk, n.collision = geometryFor source lookup n.link

variable {links : Roster Link} {joints : Roster Joint} {root robotName : String}

/-- Just where the last association finds nothing it is left to those before it to decide. -/
theorem decidedBy_iff (distinct : links.names.Nodup) (keyed : ∀ e ∈ links.entries, e.2.name = e.1)
    (built : (buildTree links joints root robotName).result = .ok t)
    (ran : runAll stages t = .ok u)
    (last : (associateCollisions source lookup required u).result = .ok v) :
    (∀ n ∈ v.walk, n.collision = (geometryFor source lookup n.link).or
      (stages.reverse.findSome? (·.found n.link))) ∧
    (v.DecidedBy source lookup ↔ ∀ n ∈ v.walk, geometryFor source lookup n.link = none →
      ∀ stage ∈ stages, stage.found n.link = none) := by
  obtain ⟨distinct', bore⟩ := collision_runAll ran (names_buildTree_nodup distinct keyed built)
  have bears : ∀ n ∈ v.walk, n.collision = (geometryFor source lookup n.link).or
      (stages.reverse.findSome? (·.found n.link)) := by
    intro n hn
    obtain ⟨k, hk, link, now⟩ :=
      (Stage.associate source lookup required).collision_run last distinct' n hn
    obtain ⟨m, hm, -, before⟩ := bore k hk
    rw [now, before, link, collision_buildTree built m hm, Option.or_none]
    rfl
  refine ⟨bears, forall₂_congr fun n hn => ?_⟩
  rw [bears n hn]
  cases geometryFor source lookup n.link with
  | some g => simp
  | none =>
    rw [Option.none_or, List.findSome?_eq_none_iff]
    simp

end Histories

namespace Description

variable {u : UpAxis} {text root robotName : String} {d : Description} {t : Tree}

theorem collision_after_prunings (built : (buildTree d.links d.joints root robotName).result = .ok t)
    (rules : List PruneRule) : ∀ n ∈ (t.after (rules.map .prune)).walk, n.collision = none := by
  have plain := collision_buildTree built
  clear built
  induction rules generalizing t with
  | nil => exact plain
  | cons rule rules ih =>
    refine ih fun n hn => ?_
    obtain ⟨m, hm, rfl⟩ := (Node.thins_prune rule).exists_of_mem_walk hn
    rw [Node.collision_prune]
    exact plain m hm

theorem associates_after_prunings (accepted : (ofText u text).result = .ok d)
    (built : (buildTree d.links d.joints root robotName).result = .ok t) (rules : List PruneRule)
    (source : CollisionSource) (lookup : Option Lookup) :
    (t.after (rules.map .prune)).Associates source lookup := by
  have hd := consistent_of_ofText accepted
  have ht := hd.wellFormed_derived (hd.derives_after built (rules.map .prune))
  exact ht.associates (collision_after_prunings built rules) source lookup

/-- The base, which has a mesh, is left, and there is no collision mesh for it. -/
theorem associates_after_prunings_cell : ∃ d t, (ofText .y cellText).result = .ok d ∧
    (buildTree d.links d.joints "base" "cell").result = .ok t ∧
    (t.after ([.standard, .standard].map .prune)).names = ["base", "arm"] ∧
    (meshNodes (t.after ([.standard, .standard].map .prune)).walk).map Node.name = ["base"] ∧
    (t.after ([.standard, .standard].map .prune)).Associates .engineNative (some fun _ => none) := by
  obtain ⟨t, h, shape⟩ : ∃ t, ((ofText .y cellText).result >>= fun d =>
      (buildTree d.links d.joints "base" "cell").result) = .ok t ∧
      ((t.after ([.standard, .standard].map .prune)).names,
        (meshNodes (t.after ([.standard, .standard].map .prune)).walk).map Node.name) =
      (["base", "arm"], ["base"]) := by
    rw [ofText_of_read read_cellText]
    exact exists_ok_of_map (by decide +kernel)
  obtain ⟨d, accepted, built⟩ := bind_eq_ok.1 h
  obtain ⟨names, meshes⟩ := Prod.mk.inj shape
  exact ⟨d, t, accepted, built, names, meshes, associates_after_prunings accepted built _ _ _⟩

/-- The base has a mesh; the tag is pruned between the two associations. -/
theorem decidedBy_iff_cell : ∃ d t u v, (ofText .y cellText).result = .ok d ∧
    (buildTree d.links d.joints "base" "cell").result = .ok t ∧
    runAll [.associate .engineNative (some fun _ => some "hull.obj") true, .prune .standard] t =
      .ok u ∧
    (associateCollisions .externalDecomposition none false u).result = .ok v ∧
    v.walk.map Node.collision = [some ⟨"a_hull.obj", .externalDecomposition⟩, none] ∧
    v.DecidedBy .externalDecomposition none := by
  obtain ⟨t, h, rest⟩ : ∃ t, ((ofText .y cellText).result >>= fun d =>
      (buildTree d.links d.joints "base" "cell").result) = .ok t ∧
      (runAll [.associate .engineNative (some fun _ => some "hull.obj") true, .prune .standard] t
        ).toOption.map (fun u =>
          (associateCollisions .externalDecomposition none false u).result.toOption.map fun v =>
            v.walk.map Node.collision) =
        some (some [some ⟨"a_hull.obj", .externalDecomposition⟩, none]) := by
    rw [ofText_of_read read_cellText]
    exact exists_ok_of_map (by decide +kernel)
  obtain ⟨d, accepted, built⟩ := bind_eq_ok.1 h
  obtain ⟨u, ran, rest⟩ := exists_ok_of_map rest
  obtain ⟨v, last, collisions⟩ := exists_ok_of_map rest
  have hd := consistent_of_ofText accepted
  refine ⟨d, t, u, v, accepted, built, ran, last, collisions, ?_⟩
  refine (decidedBy_iff hd.links_nodup hd.link_listed built ran last).2.2 fun n _ nothing => ?_
  exact List.forall_mem_cons.2
    ⟨geometryFor_of_unlooked nothing _ _, List.forall_mem_singleton.2 rfl⟩

/-- The second association finds nothing for the base and says that it has no colliders. -/
theorem not_decidedBy_stale : ∃ d t u v, (ofText .y cellText).result = .ok d ∧
    (buildTree d.links d.joints "base" "cell").result = .ok t ∧
    runAll [.associate .engineNative (some fun _ => some "hull.obj") false] t = .ok u ∧
    (associateCollisions .engineNative (some fun _ => none) false u).result = .ok v ∧
    v.walk.map Node.collision = [some ⟨"hull.obj", .engineNative⟩, none, none] ∧
    ¬v.DecidedBy .engineNative (some fun _ => none) := by
  obtain ⟨t, h, rest⟩ : ∃ t, ((ofText .y cellText).result >>= fun d =>
      (buildTree d.links d.joints "base" "cell").result) = .ok t ∧
      (runAll [.associate .engineNative (some fun _ => some "hull.obj") false] t).toOption.map
        (fun u => (associateCollisions .engineNative (some fun _ => none) false u
          ).result.toOption.map fun v => v.walk.map Node.collision) =
        some (some [some ⟨"hull.obj", .engineNative⟩, none, none]) := by
    rw [ofText_of_read read_cellText]
    exact exists_ok_of_map (by decide +kernel)
  obtain ⟨d, accepted, built⟩ := bind_eq_ok.1 h
  obtain ⟨u, ran, rest⟩ := exists_ok_of_map rest
  obtain ⟨v, last, collisions⟩ := exists_ok_of_map rest
  refine ⟨d, t, u, v, accepted, built, ran, last, collisions, fun decided => ?_⟩
  obtain ⟨n, others, walk, bears, -⟩ := List.map_eq_cons_iff.1 collisions
  have nothing : geometryFor .engineNative (some fun _ => none) n.link = none := by
    simp [geometryFor, resolve]
  rw [decided n (by rw [walk]; exact List.mem_cons_self), nothing] at bears
  contradiction

end Description

end Articulation
