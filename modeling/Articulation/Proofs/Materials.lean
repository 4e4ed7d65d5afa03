import Articulation.Proofs.Acceptance
import Articulation.Proofs.Pipeline
/-!
Which materials a robot shows and in which colours. Three rules meet: the default material is there
from the start, of the materials that a document declares by themselves the last one of a name
counts, and of the colours that come along with visuals the first one, if nothing else claims the
name. The visuals look a name up when all this is over, so they may come before it is given.
-/
set_option autoImplicit false

namespace Articulation

open Xml (Element)

namespace Description

/-- The element that tells which material a link shows: that of its first visual. A link without
inertial data shows nothing. -/
def surface? (link : Element) : Option Element :=
  match link.child? "inertial" with
  | none => none
  | some _ => (link.child? "visual").bind (·.child? "material")

def givenName? (e : Element) : Option String := (e.get? "name").filter (· != "")

def colourFor? (name : String) (e : Element) : Option Element :=
  if givenName? e = some name then e.child? "color" else none

/-- The materials of that name which stand by themselves. -/
def declarations (root : Element) (name : String) : List Element :=
  (root.childrenNamed "material").filter (·.get? "name" == some name)

def inlineColours (root : Element) (name : String) : List Element :=
  (root.childrenNamed "link").filterMap fun link => (surface? link).bind (colourFor? name)

def declares (root : Element) (name : String) : Bool :=
  !(declarations root name).isEmpty || !(inlineColours root name).isEmpty

def materialOf (root link : Element) : String :=
  match (surface? link).bind givenName? with
  | none => defaultMaterialName
  | some name => if declares root name then name else defaultMaterialName

def Shows (colour : Element) (c : Colour) : Prop :=
  ∃ text, colour.get? "rgba" = some text ∧ readRow? text = some c.toList

/-- A declaration without a colour is one of the default colour. -/
def Tints (declaration : Element) (c : Colour) : Prop :=
  match declaration.child? "color" with
  | none => c = defaultColour
  | some colour => Shows colour c

/-- The colour of a name, by the rule that applies to it. -/
inductive HasColour (root : Element) (name : String) : Colour → Prop where
  | declared {e : Element} {c : Colour} (last : (declarations root name).getLast? = some e)
      (tints : Tints e c) : HasColour root name c
  | builtIn (free : declarations root name = []) (same : name = defaultMaterialName) :
      HasColour root name defaultColour
  | inline {colour : Element} {c : Colour} (free : declarations root name = [])
      (other : name ≠ defaultMaterialName) (first : (inlineColours root name).head? = some colour)
      (shows : Shows colour c) : HasColour root name c

variable {u : UpAxis} {ms ms' : Roster Material} {e : Element} {name : String}

theorem shows_of_colourOf {colour : Element} {subject : String} {c : Colour}
    (h : colourOf colour subject = .ok c) : Shows colour c := by
  obtain ⟨text, given, h⟩ := bind_eq_ok.1 h
  unfold readColour at h
  split at h
  next => contradiction
  next row hrow =>
    split at h
    next =>
      cases h
      rw [Shows, Colour.toList_ofList]
      exact ⟨text, get?_of_required given, row_of_readVector hrow⟩
    next => contradiction

theorem readMaterial_ok {m : Material} (h : (readMaterial e).result = .ok m) :
    e.get? "name" = some m.name ∧ Tints e m.colour := by
  unfold readMaterial at h
  rw [Traced.result_bind] at h
  obtain ⟨name, given, h⟩ := bind_eq_ok.1 h
  split at h
  next none =>
    cases h
    refine ⟨get?_of_required given, ?_⟩
    simp only [Tints, none]
  next colour found =>
    rw [Traced.result_bind] at h
    obtain ⟨c, read, h⟩ := bind_eq_ok.1 h
    cases h
    refine ⟨get?_of_required given, ?_⟩
    simp only [Tints, found]
    exact shows_of_colourOf read

theorem find?_readMaterials (es : List Element)
    (h : (readMaterials ms es).result = .ok ms') (name : String) :
    match (es.filter (·.get? "name" == some name)).getLast? with
    | none => ms'.find? name = ms.find? name
    | some e => ∃ c, ms'.find? name = some ⟨name, c⟩ ∧ Tints e c := by
  induction es generalizing ms with
  | nil =>
    cases h
    rfl
  | cons e es ih =>
    rw [readMaterials, Traced.result_bind] at h
    obtain ⟨m, read, h⟩ := bind_eq_ok.1 h
    obtain ⟨named, tints⟩ := readMaterial_ok read
    have rest := ih h
    rw [Roster.find?_insert] at rest
    by_cases here : name = m.name
    · subst here
      rw [List.filter_cons_of_pos (by simp [named]), List.getLast?_cons]
      -- a later declaration has the last word, and this one if there is none
      cases last : (es.filter (·.get? "name" == some m.name)).getLast? with
      | none =>
        rw [last] at rest
        exact ⟨m.colour, by simpa using rest, tints⟩
      | some later =>
        rw [last] at rest
        exact rest
    · rw [List.filter_cons_of_neg (by simp [named, Ne.symm here])]
      rwa [if_neg here] at rest

/-- How a name fares that a colour may come along with: a name that is taken keeps what it has. -/
def Takes (name : String) (colour : Option Element) (ms ms' : Roster Material) : Prop :=
  match ms.find? name, colour with
  | some m, _ => ms'.find? name = some m
  | none, none => ms'.find? name = none
  | none, some colour => ∃ c, ms'.find? name = some ⟨name, c⟩ ∧ Shows colour c

theorem Takes.nothing (name : String) (ms : Roster Material) : Takes name none ms ms := by
  unfold Takes
  cases ms.find? name <;> rfl

theorem Takes.trans {ms'' : Roster Material} {first second : Option Element}
    (h : Takes name first ms ms') (h' : Takes name second ms' ms'') :
    Takes name (first.or second) ms ms'' := by
  unfold Takes at *
  cases found : ms.find? name with
  | some m =>
    rw [found] at h
    rwa [h] at h'
  | none =>
    rw [found] at h
    cases first with
    | none =>
      rw [h] at h'
      exact h'
    | some colour =>
      obtain ⟨c, taken, shows⟩ := h
      rw [taken] at h'
      exact ⟨c, h', shows⟩

theorem Takes.contains {colour : Option Element} (h : Takes name colour ms ms')
    (known : ms.contains name = true) : ms'.contains name = true := by
  obtain ⟨m, found⟩ := Option.isSome_iff_exists.1 known
  unfold Takes at h
  rw [found] at h
  rw [Roster.contains, h]
  rfl

theorem takes_insert {name : String} {colour : Element} {c : Colour}
    (free : ms.contains name = false) (shows : Shows colour c) :
    Takes name (some colour) ms (ms.insert name ⟨name, c⟩) := by
  have none : ms.find? name = none := by simpa [Roster.contains] using free
  unfold Takes
  rw [none, Roster.find?_insert, if_pos rfl]
  exact ⟨c, rfl, shows⟩

theorem takes_insert_other {other : String} {m : Material} (ne : name ≠ other) :
    Takes name none ms (ms.insert other m) := by
  unfold Takes
  rw [Roster.find?_insert, if_neg ne]
  cases ms.find? name <;> rfl

theorem takes_of_contains {colour : Option Element} (known : ms.contains name = true) :
    Takes name colour ms ms := by
  obtain ⟨m, found⟩ := Option.isSome_iff_exists.1 known
  unfold Takes
  rw [found]

theorem getD_givenName? (e : Element) : (givenName? e).getD defaultMaterialName =
    match e.get? "name" with
    | none | some "" => defaultMaterialName
    | some name => name := by
  unfold givenName?
  split
  next absent =>
    rw [absent]
    rfl
  next empty =>
    rw [empty]
    rfl
  next name other given =>
    rw [given, Option.filter_some, if_pos (by simpa using other), Option.getD_some]

theorem colourFor?_ne {other : String} (given : givenName? e = some name) (ne : other ≠ name) :
    colourFor? other e = none := by
  rw [colourFor?, given, if_neg]
  exact fun same => ne (Option.some.inj same).symm

theorem readVisualMaterial_ok {link material : String}
    (h : readVisualMaterial link ms e = .ok (material, ms')) :
    material = (givenName? e).getD defaultMaterialName ∧
      (ms.contains defaultMaterialName = true → ∀ name, Takes name (colourFor? name e) ms ms') := by
  unfold readVisualMaterial at h
  extract_lets chosen at h
  have named : chosen = (givenName? e).getD defaultMaterialName := (getD_givenName? e).symm
  clear_value chosen
  split at h
  next none =>
    cases h
    refine ⟨named, fun _ name => ?_⟩
    rw [colourFor?, none, ite_self]
    exact .nothing name ms
  next colour found =>
    split at h
    next known =>
      cases h
      refine ⟨named, fun _ name => ?_⟩
      by_cases given : givenName? e = some name
      · rw [given, Option.getD_some] at named
        rw [← named]
        exact takes_of_contains known
      · rw [colourFor?, if_neg given]
        exact .nothing name ms
    next new =>
      obtain ⟨c, read, h⟩ := bind_eq_ok.1 h
      cases h
      refine ⟨named, fun builtIn name => ?_⟩
      -- the name is not that of the default material, which is known, so it is given
      cases given : givenName? e with
      | none =>
        rw [given, Option.getD_none] at named
        rw [named] at new
        contradiction
      | some other =>
        rw [given, Option.getD_some] at named
        subst named
        by_cases here : name = material
        · subst here
          rw [colourFor?, if_pos given, found]
          exact takes_insert (by simpa using new) (shows_of_colourOf read)
        · rw [colourFor?_ne given here]
          exact takes_insert_other here

theorem readSurface_ok {link material : String} {visual : Element}
    (h : readSurface link ms visual = .ok (material, ms')) :
    material = ((visual.child? "material").bind givenName?).getD defaultMaterialName ∧
      (ms.contains defaultMaterialName = true →
        ∀ name, Takes name ((visual.child? "material").bind (colourFor? name)) ms ms') := by
  unfold readSurface at h
  split at h
  next none =>
    cases h
    rw [none]
    exact ⟨rfl, fun _ name => .nothing name ms⟩
  next e given =>
    rw [given]
    exact readVisualMaterial_ok h

theorem readLink_material {l : Link} (h : readLink u ms e = .ok (l, ms')) :
    l.materialName = ((surface? e).bind givenName?).getD defaultMaterialName ∧
      (ms.contains defaultMaterialName = true →
        ∀ name, Takes name ((surface? e).bind (colourFor? name)) ms ms') := by
  obtain ⟨_, _, h⟩ := bind_eq_ok.1 h
  split at h
  next none =>
    cases h
    have bare : surface? e = .none := by rw [surface?, none]
    rw [bare]
    exact ⟨rfl, fun _ name => .nothing name ms⟩
  next inertial found =>
    obtain ⟨body, read, h⟩ := bind_eq_ok.1 h
    obtain ⟨mass, pose, rfl⟩ := readBody_ok read
    split at h
    next none =>
      cases h
      have bare : surface? e = .none := by simp only [surface?, found, none, Option.bind_none]
      rw [bare]
      exact ⟨rfl, fun _ name => .nothing name ms⟩
    next visual seen =>
      have first : surface? e = visual.child? "material" := by
        simp only [surface?, found, seen, Option.bind_some]
      obtain ⟨⟨material, materials⟩, surface, h⟩ := bind_eq_ok.1 h
      obtain ⟨shown, mesh, h⟩ := bind_eq_ok.1 h
      cases h
      have kept : l.materialName = material := by
        rcases readMesh_ok mesh with rfl | ⟨_, _, _, rfl⟩ <;> rfl
      rw [kept, first]
      exact readSurface_ok surface

theorem takes_of_readLinks {links links' : Roster Link} (es : List Element)
    (builtIn : ms.contains defaultMaterialName = true)
    (h : readLinks u links ms es = .ok (links', ms')) :
    Takes name (es.filterMap fun link => (surface? link).bind (colourFor? name)).head? ms ms' := by
  induction es generalizing links ms with
  | nil =>
    cases h
    exact .nothing name _
  | cons e es ih =>
    obtain ⟨⟨l, materials⟩, read, h⟩ := bind_eq_ok.1 h
    simp only at h
    split at h
    next => contradiction
    next =>
      have takes := (readLink_material read).2 builtIn
      have later := ih ((takes defaultMaterialName).contains builtIn) h
      rw [List.filterMap_cons]
      cases here : (surface? e).bind (colourFor? name) with
      | none => simpa [here] using (takes name).trans later
      | some colour => simpa [here] using (takes name).trans later

variable {root : Element} {d : Description}

theorem find?_start (name : String) :
    (Roster.ofList [(defaultMaterialName, defaultMaterial)]).find? name =
      if name = defaultMaterialName then some defaultMaterial else none :=
  Roster.find?_insert .empty defaultMaterialName name defaultMaterial

theorem find?_materials (h : (ofElement u root).result = .ok d) (name : String) :
    match d.materials.find? name with
    | some m => m.name = name ∧ HasColour root name m.colour
    | none => name ≠ defaultMaterialName ∧ declares root name = false := by
  obtain ⟨-, ms, ls, ms', js, hms, hls, -, -, rfl⟩ := ofElement_ok_iff.1 h
  have listed := materialsListed_of_readMaterials _ .start hms
  have builtIn : ms.contains defaultMaterialName = true :=
    (Roster.contains_iff ms _).2 listed.default
  have top := find?_readMaterials _ hms name
  have taken : Takes name (inlineColours root name).head? ms ms' :=
    takes_of_readLinks _ builtIn hls
  rw [find?_start, ← declarations] at top
  unfold Takes at taken
  cases last : (declarations root name).getLast? with
  | some e =>
    rw [last] at top
    obtain ⟨c, found, tints⟩ := top
    rw [found] at taken
    rw [taken]
    exact ⟨rfl, .declared last tints⟩
  | none =>
    rw [last] at top
    have free : declarations root name = [] := List.getLast?_eq_none_iff.1 last
    by_cases same : name = defaultMaterialName
    · rw [if_pos same] at top
      rw [top] at taken
      rw [taken]
      exact ⟨same.symm, .builtIn free same⟩
    · rw [if_neg same] at top
      rw [top] at taken
      cases first : (inlineColours root name).head? with
      | none =>
        rw [first] at taken
        rw [taken]
        have nothing : inlineColours root name = [] := List.head?_eq_none_iff.1 first
        exact ⟨same, by simp [declares, free, nothing]⟩
      | some colour =>
        rw [first] at taken
        obtain ⟨c, found, shows⟩ := taken
        rw [found]
        exact ⟨rfl, .inline free same first shows⟩

theorem HasColour.known {c : Colour} (h : HasColour root name c) :
    name = defaultMaterialName ∨ declares root name = true := by
  unfold declares
  cases h with
  | declared last _ => exact .inr (by cases found : declarations root name <;> simp_all)
  | builtIn _ same => exact .inl same
  | inline _ _ first _ => exact .inr (by cases found : inlineColours root name <;> simp_all)

theorem contains_materials (h : (ofElement u root).result = .ok d) (name : String) :
    d.materials.contains name = true ↔
      name = defaultMaterialName ∨ declares root name = true := by
  have found := find?_materials h name
  unfold Roster.contains
  cases listed : d.materials.find? name with
  | none =>
    rw [listed] at found
    simp [found]
  | some m =>
    rw [listed] at found
    simpa using found.2.known

theorem materialName_settleMaterial (ms : Roster Material) (l : Link) :
    (settleMaterial ms l).materialName =
      if ms.contains l.materialName then l.materialName else defaultMaterialName := by
  unfold settleMaterial
  split <;> rfl

theorem exists_of_forall₂ {α β : Type} {R : α → β → Prop} {as : List α} {bs : List β}
    (h : List.Forall₂ R as bs) {b : β} (hb : b ∈ bs) : ∃ a ∈ as, R a b := by
  induction h with
  | nil => contradiction
  | @cons a _ _ _ here _ ih =>
    rcases List.mem_cons.1 hb with rfl | later
    · exact ⟨a, List.mem_cons_self, here⟩
    · obtain ⟨a', listed, related⟩ := ih later
      exact ⟨a', List.mem_cons_of_mem _ listed, related⟩

theorem materialName_eq (h : (ofElement u root).result = .ok d) {l : Link}
    (hl : l ∈ d.links.values) : ∃ link ∈ root.childrenNamed "link",
      link.get? "name" = some l.name ∧ l.materialName = materialOf root link := by
  have known := contains_materials h
  obtain ⟨-, ms, _, ms', js, -, hls, -, -, rfl⟩ := ofElement_ok_iff.1 h
  obtain ⟨ks, rfl, -, each⟩ := readLinks_each hls
  rw [map_settleMaterial, Roster.values_keyed] at hl
  obtain ⟨k, hk, rfl⟩ := List.mem_map.1 hl
  obtain ⟨link, listed, before, after, read⟩ := exists_of_forall₂ each hk
  refine ⟨link, listed, ?_, ?_⟩
  · rw [name_settleMaterial]
    exact (readLink_ok read).1
  · rw [materialName_settleMaterial, materialOf, (readLink_material read).1]
    cases given : (surface? link).bind givenName? with
    | none => exact ite_self _
    | some name =>
      have known := known name
      simp only [Option.getD_some]
      by_cases declared : declares root name = true
      · rw [if_pos declared, if_pos (known.2 (.inr declared))]
      · rw [if_neg declared]
        split
        next contained => exact (known.1 contained).resolve_right declared
        next => rfl

theorem contains_materialOf (h : (ofElement u root).result = .ok d) (link : Element) :
    d.materials.contains (materialOf root link) = true := by
  rw [contains_materials h, materialOf]
  split
  · exact .inl rfl
  · split
    next declared => exact .inr declared
    next => exact .inl rfl

theorem Shows.unique {colour : Element} {c c' : Colour} (h : Shows colour c)
    (h' : Shows colour c') : c = c' := by
  obtain ⟨text, given, row⟩ := h
  obtain ⟨text', given', row'⟩ := h'
  obtain rfl : text = text' := Option.some.inj (given.symm.trans given')
  have same := Option.some.inj (row.symm.trans row')
  cases c
  cases c'
  simp_all [Colour.toList]

theorem Tints.unique {c c' : Colour} (h : Tints e c) (h' : Tints e c') : c = c' := by
  unfold Tints at h h'
  cases found : e.child? "color" with
  | none =>
    simp only [found] at h h'
    exact h.trans h'.symm
  | some colour =>
    simp only [found] at h h'
    exact h.unique h'

theorem HasColour.unique {c c' : Colour} (h : HasColour root name c)
    (h' : HasColour root name c') : c = c' := by
  cases h with
  | declared last tints =>
    cases h' with
    | declared last' tints' =>
      obtain rfl := Option.some.inj (last.symm.trans last')
      exact tints.unique tints'
    | builtIn free _ | inline free _ _ _ => simp [free] at last
  | builtIn free same =>
    cases h' with
    | declared last _ => simp [free] at last
    | builtIn _ _ => rfl
    | inline _ other _ _ => contradiction
  | inline free other first shows =>
    cases h' with
    | declared last _ => simp [free] at last
    | builtIn _ same => contradiction
    | inline _ _ first' shows' =>
      obtain rfl := Option.some.inj (first.symm.trans first')
      exact shows.unique shows'

end Description

open Description (linkNames materialOf HasColour)

theorem Emission.mem_usedMaterials {ns : List NodeEntry} {name : String} :
    name ∈ usedMaterials ns ↔ ∃ n ∈ ns, ∃ v, n.visual = some v ∧ v.materialName = name := by
  simp [usedMaterials]

theorem Emission.materialName_of_visualOf {e : Emission} {l : Link} {v : Visual}
    (h : e.visualOf l = some v) : v.materialName = l.materialName := by
  unfold visualOf at h
  split at h
  · obtain ⟨asset, -, rfl⟩ := Option.map_eq_some_iff.1 h
    rfl
  · contradiction

/-- The materials of a robot are those that its visuals name, as the document has them. -/
structure Robot.Painted (r : Robot) (root : Element) : Prop where
  links : (linkNames root).Nodup
  visual : ∀ n ∈ r.nodes, ∀ v, n.visual = some v → ∃ link ∈ root.childrenNamed "link",
    link.get? "name" = some n.link ∧ v.materialName = materialOf root link
  distinct : r.materials.names.Nodup
  used : ∀ name, name ∈ r.materials.names ↔ ∃ n ∈ r.nodes, ∃ v, n.visual = some v ∧
    v.materialName = name
  colour : ∀ name m, r.materials.find? name = some m →
    m.name = name ∧ ∀ c, HasColour root name c ↔ c = m.colour

theorem Compiler.compile_painted {c : Compiler} {text : String} {made : Compilation}
    (h : (c.compile text).result = .ok made) :
    ∃ root, Xml.read text = .ok root ∧ made.robot.Painted root := by
  obtain ⟨-, -, nodes⟩ := compile_nodes h
  obtain ⟨root, d, read, described, drawn, materials⟩ := compile_described h
  have listed := Description.materialsListed_of_ofElement described
  have shown (n : NodeEntry) (hn : n ∈ made.robot.nodes) (v : Visual) (visual : n.visual = some v) :
      ∃ link ∈ root.childrenNamed "link",
        link.get? "name" = some n.link ∧ v.materialName = materialOf root link := by
    rw [nodes] at hn
    obtain ⟨m, hm, rfl⟩ := List.mem_map.1 hn
    rw [Emission.materialName_of_visualOf visual]
    exact Description.materialName_eq described (drawn.links m hm)
  refine ⟨root, read, ?_⟩
  constructor
  · rw [Description.linkNames_eq described]
    exact (Description.consistent_of_ofElement described).links_nodup
  · exact shown
  · rw [materials, Roster.names_filter]
    exact listed.nodup.filter _
  · intro name
    rw [materials, Roster.names_filter, List.mem_filter, List.contains_iff_mem,
      Emission.mem_usedMaterials, and_iff_right_iff_imp]
    rintro ⟨n, hn, v, visual, rfl⟩
    obtain ⟨link, -, -, material⟩ := shown n hn v visual
    rw [material, ← Roster.contains_iff]
    exact Description.contains_materialOf described link
  · intro name m found
    rw [materials, Roster.find?_filter] at found
    split at found
    next =>
      have known := Description.find?_materials described name
      rw [found] at known
      obtain ⟨called, has⟩ := known
      refine ⟨called, fun c => ⟨fun other => other.unique has, ?_⟩⟩
      rintro rfl
      exact has
    next => contradiction

/-- The tag that says what red looks like does not stay, but its colour does. -/
theorem Compiler.compile_painted_cell : ∃ made,
    (compile ⟨.standard, none, none⟩ Description.cellText).result = .ok made ∧
      made.robot.nodes.map (fun n => (n.link, n.visual.map (·.materialName))) =
        [("base", some "red"), ("arm", none)] ∧
      made.robot.materials.entries.map (fun e => (e.1, e.2.colour.toList)) =
        [("red", [1, 0, 0, 1])] ∧
      ∃ root, Xml.read Description.cellText = .ok root ∧ made.robot.Painted root := by
  have outcome : (compile ⟨.standard, none, none⟩ Description.cellText).result.toOption.map
      (fun made => (made.robot.nodes.map fun n => (n.link, n.visual.map (·.materialName)),
        made.robot.materials.entries.map fun e => (e.1, e.2.colour.toList))) =
          some ([("base", some "red"), ("arm", none)], [("red", [1, 0, 0, 1])]) := by
    rw [compile_of_read Description.read_cellText]
    decide +kernel
  obtain ⟨made, h, shape⟩ := exists_ok_of_map outcome
  obtain ⟨entries, colours⟩ := Prod.mk.inj shape
  exact ⟨made, h, entries, colours, compile_painted h⟩

end Articulation
