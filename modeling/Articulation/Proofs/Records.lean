import Articulation.Description.Reading
import Mathlib
/-!
What the records of an accepted description have in common. Every record is listed under the name
that it bears, no joint refers to a link that is not there, and every mesh has an asset with a name.
The later stages rely on all of it without asking again.
-/
set_option autoImplicit false

namespace Articulation

open Xml (Element)

/-- A mesh that is referred to has a last component to name it by. -/
def Link.MeshNamed (l : Link) : Prop :=
  l.hasMesh = true → (AssetPath.ofString l.asset).name?.isSome = true

/-- The forms that a link may have when it is read. -/
inductive Link.Form (l : Link) : Prop where
  | sensor (same : l = .sensor l.name)
  | bare (body : l.isSensorOnly = false) (noMesh : l.hasMesh = false)
      (empty : l.meshReference = "")
  | shown (body : l.isSensorOnly = false) (mesh : l.hasMesh = true)
      (named : (AssetPath.ofString l.asset).name?.isSome = true)

theorem Link.Form.meshNamed {l : Link} (h : l.Form) : l.MeshNamed := by
  intro mesh
  cases h with
  | sensor same =>
    rw [same] at mesh
    contradiction
  | bare _ noMesh _ =>
    rw [noMesh] at mesh
    contradiction
  | shown _ _ named => exact named

namespace Description

variable {u : UpAxis} {links : Roster Link} {joints : Roster Joint}

structure Consistent (d : Description) : Prop where
  links_nodup : d.links.names.Nodup
  link_listed : ∀ e ∈ d.links.entries, e.2.name = e.1
  mesh_named : ∀ e ∈ d.links.entries, e.2.MeshNamed
  joints_nodup : d.joints.names.Nodup
  joint_listed : ∀ e ∈ d.joints.entries, e.2.child = e.1
  parent_listed : ∀ e ∈ d.joints.entries, e.2.parent ∈ d.links.names
  child_listed : ∀ e ∈ d.joints.entries, e.2.child ∈ d.links.names

theorem get?_of_required {e : Element} {key value : String} {subject : Option String}
    (h : required e key subject = .ok value) : e.get? key = some value := by
  unfold required at h
  split at h
  next => contradiction
  next found =>
    split at h
    next => contradiction
    next =>
      cases h
      exact found

theorem readMesh_ok {visual : Element} {l m : Link} (h : readMesh u visual l = .ok m) :
    m = l ∨ ∃ reference pose, (AssetPath.ofString (stripScheme reference)).name?.isSome = true ∧
      m = { l with hasMesh := true, meshReference := reference, meshPose := pose } := by
  unfold readMesh at h
  split at h
  next =>
    cases h
    exact .inl rfl
  next mesh _ =>
    obtain ⟨reference, _, h⟩ := bind_eq_ok.1 h
    split at h
    next => contradiction
    next named =>
      obtain ⟨pose, _, h⟩ := bind_eq_ok.1 h
      cases h
      exact .inr ⟨reference, _, by simpa [Option.isSome_iff_ne_none] using named, rfl⟩

theorem readBody_ok {name : String} {inertial : Element} {l : Link}
    (h : readBody u name inertial = .ok l) :
    ∃ mass pose, l = { Link.massive name mass with inertialPose := pose } := by
  obtain ⟨mass, _, h⟩ := bind_eq_ok.1 h
  obtain ⟨pose, _, h⟩ := bind_eq_ok.1 h
  cases h
  exact ⟨mass, pose, rfl⟩

theorem readLink_ok {ms ms' : Roster Material} {e : Element} {l : Link}
    (h : readLink u ms e = .ok (l, ms')) : e.get? "name" = some l.name ∧ l.Form := by
  obtain ⟨name, hname, h⟩ := bind_eq_ok.1 h
  have written := get?_of_required hname
  split at h
  next =>
    cases h
    exact ⟨written, .sensor rfl⟩
  next inertial _ =>
    obtain ⟨body, hbody, h⟩ := bind_eq_ok.1 h
    obtain ⟨mass, pose, rfl⟩ := readBody_ok hbody
    split at h
    next =>
      cases h
      exact ⟨written, .bare rfl rfl rfl⟩
    next visual _ =>
      obtain ⟨⟨material, materials⟩, _, h⟩ := bind_eq_ok.1 h
      obtain ⟨shown, hmesh, h⟩ := bind_eq_ok.1 h
      cases h
      rcases readMesh_ok hmesh with rfl | ⟨reference, pose, named, rfl⟩
      · exact ⟨written, .bare rfl rfl rfl⟩
      · exact ⟨written, .shown rfl rfl named⟩

abbrev byName (ls : List Link) : Roster Link := .keyed Link.name ls

theorem readLinks_ok {ks : List Link} {ms ms' : Roster Material} (es : List Element)
    (distinct : (ks.map Link.name).Nodup)
    (h : readLinks u (byName ks) ms es = .ok (links, ms')) :
    ∃ ls, links = byName (ks ++ ls) ∧ ((ks ++ ls).map Link.name).Nodup ∧
      List.Forall₂ (fun e l => ∃ before after, readLink u before e = .ok (l, after)) es ls := by
  induction es generalizing ks ms with
  | nil =>
    cases h
    exact ⟨[], by simp, by simpa using distinct, .nil⟩
  | cons e es ih =>
    obtain ⟨⟨l, materials⟩, hread, h⟩ := bind_eq_ok.1 h
    simp only at h
    split at h
    next => contradiction
    next free =>
      have new : l.name ∉ ks.map Link.name := by
        rwa [Roster.contains_iff, Roster.names_keyed] at free
      have both : ((ks ++ [l]).map Link.name).Nodup := by
        rw [List.map_append, List.map_singleton, List.nodup_append_comm]
        exact List.nodup_cons.2 ⟨new, distinct⟩
      rw [Roster.insert_keyed Link.name new] at h
      obtain ⟨ls, rfl, all, read⟩ := ih both h
      have shift : (ks ++ [l]) ++ ls = ks ++ l :: ls := by simp
      rw [shift] at all ⊢
      exact ⟨l :: ls, rfl, all, .cons ⟨ms, materials, hread⟩ read⟩

theorem readLinks_each {ls : Roster Link} {ms ms' : Roster Material} {es : List Element}
    (h : readLinks u .empty ms es = .ok (ls, ms')) :
    ∃ ks, ls = byName ks ∧ (ks.map Link.name).Nodup ∧
      List.Forall₂ (fun e l => ∃ before after, readLink u before e = .ok (l, after)) es ks := by
  have start : readLinks u (byName []) ms es = .ok (ls, ms') := h
  have none : (([] : List Link).map Link.name).Nodup := List.nodup_nil
  exact readLinks_ok es none start

theorem readLinks_start {ls : Roster Link} {ms ms' : Roster Material} {es : List Element}
    (h : readLinks u .empty ms es = .ok (ls, ms')) :
    ∃ ks, ls = byName ks ∧ (ks.map Link.name).Nodup ∧
      es.map (·.get? "name") = ks.map (fun l => some l.name) ∧ ∀ l ∈ ks, l.Form := by
  obtain ⟨ks, rfl, distinct, read⟩ := readLinks_each h
  refine ⟨ks, rfl, distinct, ?_⟩
  clear h distinct
  induction read with
  | nil => simp
  | cons here _ ih =>
    obtain ⟨before, after, here⟩ := here
    obtain ⟨written, form⟩ := readLink_ok here
    obtain ⟨names, forms⟩ := ih
    exact ⟨by rw [List.map_cons, List.map_cons, written, names],
      List.forall_mem_cons.2 ⟨form, forms⟩⟩

def readJoint (u : UpAxis) (e : Element) : Except DescriptionError Joint := do
  (← readJointRecord u e).joint

abbrev byChild (js : List Joint) : Roster Joint := .keyed Joint.child js

/-- Joints between the listed links that do not get in each other's way. -/
structure Compatible (links : Roster Link) (js : List Joint) : Prop where
  names : (js.map Joint.name).Nodup
  children : (js.map Joint.child).Nodup
  parent_listed : ∀ j ∈ js, j.parent ∈ links.names
  child_listed : ∀ j ∈ js, j.child ∈ links.names

theorem Compatible.nil (links : Roster Link) : Compatible links [] :=
  ⟨List.nodup_nil, List.nodup_nil, fun _ h => absurd h List.not_mem_nil,
    fun _ h => absurd h List.not_mem_nil⟩

theorem Compatible.perm {is js : List Joint} (h : Compatible links is) (same : is.Perm js) :
    Compatible links js where
  names := (same.map _).nodup_iff.1 h.names
  children := (same.map _).nodup_iff.1 h.children
  parent_listed j hj := h.parent_listed j (same.mem_iff.2 hj)
  child_listed j hj := h.child_listed j (same.mem_iff.2 hj)

theorem compatible_cons {j : Joint} {js : List Joint} :
    Compatible links (j :: js) ↔ Compatible links js ∧ (∀ i ∈ js, i.name ≠ j.name) ∧
      j.parent ∈ links.names ∧ j.child ∈ links.names ∧ j.child ∉ js.map Joint.child := by
  constructor
  · rintro ⟨names, children, parents, childs⟩
    rw [List.map_cons, List.nodup_cons] at names children
    rw [List.forall_mem_cons] at parents childs
    refine ⟨⟨names.2, children.2, parents.2, childs.2⟩, fun i hi same => ?_, parents.1, childs.1,
      children.1⟩
    exact names.1 (List.mem_map.2 ⟨i, hi, same⟩)
  · rintro ⟨rest, name, parent, child, free⟩
    refine ⟨?_, ?_, ?_, ?_⟩
    · rw [List.map_cons, List.nodup_cons]
      refine ⟨fun taken => ?_, rest.names⟩
      obtain ⟨i, hi, same⟩ := List.mem_map.1 taken
      exact name i hi same
    · exact List.nodup_cons.2 ⟨free, rest.children⟩
    · exact List.forall_mem_cons.2 ⟨parent, rest.parent_listed⟩
    · exact List.forall_mem_cons.2 ⟨child, rest.child_listed⟩

theorem Compatible.sublist {is js : List Joint} (h : Compatible links js) (part : is.Sublist js) :
    Compatible links is where
  names := h.names.sublist (part.map _)
  children := h.children.sublist (part.map _)
  parent_listed j hj := h.parent_listed j (part.subset hj)
  child_listed j hj := h.child_listed j (part.subset hj)

theorem checkReferences_ok_iff {j : Joint} :
    checkReferences links joints j = .ok () ↔
      j.parent ∈ links.names ∧ j.child ∈ links.names ∧ j.child ∉ joints.names := by
  rw [← Roster.contains_iff, ← Roster.contains_iff, ← Roster.contains_iff]
  unfold checkReferences
  cases links.contains j.parent <;> cases links.contains j.child <;>
    cases found : joints.find? j.child <;> simp [Roster.contains, found]

theorem readJoints_cons_ok {joints' : Roster Joint} {e : Element} {es : List Element} :
    (readJoints u links joints (e :: es)).result = .ok joints' ↔
      ∃ j, readJoint u e = .ok j ∧ (∀ i ∈ joints.values, i.name ≠ j.name) ∧
        checkReferences links joints j = .ok () ∧
        (readJoints u links (joints.insert j.child j) es).result = .ok joints' := by
  simp only [readJoints, Traced.result_bind, result_classifyJoint]
  constructor
  · intro h
    obtain ⟨record, hrecord, h⟩ := bind_eq_ok.1 h
    obtain ⟨j, hjoint, h⟩ := bind_eq_ok.1 h
    split at h
    next => contradiction
    next free =>
      rw [Traced.result_bind] at h
      obtain ⟨⟨⟩, checked, h⟩ := bind_eq_ok.1 h
      exact ⟨j, bind_eq_ok.2 ⟨record, hrecord, hjoint⟩, by simpa using free, checked, h⟩
  · rintro ⟨j, read, free, checked, rest⟩
    obtain ⟨record, hrecord, hjoint⟩ := bind_eq_ok.1 read
    refine bind_eq_ok.2 ⟨record, hrecord, bind_eq_ok.2 ⟨j, hjoint, ?_⟩⟩
    rw [if_neg (by simpa using free), Traced.result_bind]
    exact bind_eq_ok.2 ⟨(), checked, rest⟩

/-- A joint is read of every element, and all joints are compatible: nothing else is asked. -/
theorem readJoints_ok_iff {is : List Joint} (old : Compatible links is) (es : List Element) :
    (readJoints u links (byChild is) es).result = .ok joints ↔
      ∃ js, List.Forall₂ (fun e j => readJoint u e = .ok j) es js ∧
        Compatible links (is ++ js) ∧ joints = byChild (is ++ js) := by
  induction es generalizing is with
  | nil =>
    constructor
    · intro h
      cases h
      exact ⟨[], .nil, by simpa using old, by simp⟩
    · rintro ⟨js, read, -, rfl⟩
      cases read
      simp [readJoints]
  | cons e es ih =>
    have shift (j : Joint) (js : List Joint) : (is ++ [j]) ++ js = is ++ j :: js := by simp
    rw [readJoints_cons_ok, Roster.values_keyed]
    constructor
    · rintro ⟨j, read, free, checked, rest⟩
      obtain ⟨parent, child, new⟩ := checkReferences_ok_iff.1 checked
      rw [Roster.names_keyed] at new
      have both : Compatible links (is ++ [j]) :=
        (compatible_cons.2 ⟨old, free, parent, child, new⟩).perm
          (List.perm_append_singleton j is).symm
      rw [Roster.insert_keyed Joint.child new, ih both] at rest
      obtain ⟨js, others, all, rfl⟩ := rest
      rw [shift] at all ⊢
      exact ⟨j :: js, .cons read others, all, rfl⟩
    · rintro ⟨_, read, compatible, rfl⟩
      obtain ⟨j, js, here, others, rfl⟩ := List.forall₂_cons_left_iff.1 read
      have all : Compatible links ((is ++ [j]) ++ js) := by rwa [shift]
      have both : Compatible links (is ++ [j]) := all.sublist (List.sublist_append_left _ js)
      obtain ⟨-, free, parent, child, new⟩ :=
        compatible_cons.1 (both.perm (List.perm_append_singleton j is))
      refine ⟨j, here, free, ?_, ?_⟩
      · exact checkReferences_ok_iff.2 ⟨parent, child, by rwa [Roster.names_keyed]⟩
      · rw [Roster.insert_keyed Joint.child new, ih both]
        exact ⟨js, others, all, by rw [shift]⟩

@[simp] theorem name_settleMaterial (ms : Roster Material) (l : Link) :
    (settleMaterial ms l).name = l.name := by
  unfold settleMaterial
  split <;> rfl

theorem form_settleMaterial (ms : Roster Material) {l : Link} (h : l.Form) :
    (settleMaterial ms l).Form := by
  unfold settleMaterial
  split
  · exact h
  · cases h with
    | sensor same =>
      refine .sensor ?_
      rw [same]
      rfl
    | bare body noMesh empty => exact .bare body noMesh empty
    | shown body mesh named => exact .shown body mesh named

/-- The parts that an accepted description is made of. -/
theorem ofElement_ok_iff {root : Element} {d : Description} :
    (ofElement u root).result = .ok d ↔ root.tag = "robot" ∧ ∃ ms ls ms' js,
      (readMaterials (.ofList [(defaultMaterialName, defaultMaterial)])
        (root.childrenNamed "material")).result = .ok ms ∧
      readLinks u .empty ms (root.childrenNamed "link") = .ok (ls, ms') ∧
      List.Forall₂ (fun e j => readJoint u e = .ok j) (root.childrenNamed "joint") js ∧
      Compatible ls js ∧
      d = ⟨(root.get? "name").getD "robot", ls.map (settleMaterial ms'), byChild js, ms'⟩ := by
  unfold ofElement
  by_cases tagged : root.tag = "robot"
  · rw [if_neg (not_not_intro tagged)]
    simp only [Traced.result_bind]
    constructor
    · intro h
      obtain ⟨ms, hms, h⟩ := bind_eq_ok.1 h
      obtain ⟨⟨ls, ms'⟩, hls, h⟩ := bind_eq_ok.1 h
      obtain ⟨_, hjs, h⟩ := bind_eq_ok.1 h
      cases h
      obtain ⟨js, read, compatible, rfl⟩ := (readJoints_ok_iff (.nil ls) _).1 hjs
      exact ⟨tagged, ms, ls, ms', js, hms, hls, read, compatible, rfl⟩
    · rintro ⟨-, ms, ls, ms', js, hms, hls, read, compatible, rfl⟩
      refine bind_eq_ok.2 ⟨ms, hms, bind_eq_ok.2 ⟨(ls, ms'), hls, ?_⟩⟩
      have hjs := (readJoints_ok_iff (.nil ls) _).2 ⟨js, read, compatible, rfl⟩
      exact bind_eq_ok.2 ⟨byChild js, hjs, rfl⟩
  · rw [if_pos tagged]
    constructor
    · intro h
      contradiction
    · exact fun h => absurd h.1 tagged

theorem map_settleMaterial (ms : Roster Material) (ls : List Link) :
    (byName ls).map (settleMaterial ms) = byName (ls.map (settleMaterial ms)) :=
  Roster.map_keyed (name_settleMaterial ms) ls

theorem consistent_of_ofElement {root : Element} {d : Description}
    (h : (ofElement u root).result = .ok d) : d.Consistent := by
  obtain ⟨-, ms, _, ms', js, -, hls, -, compatible, rfl⟩ := ofElement_ok_iff.1 h
  obtain ⟨ls, rfl, distinct, -, forms⟩ := readLinks_start hls
  rw [map_settleMaterial]
  have names : (byName (ls.map (settleMaterial ms'))).names = (byName ls).names := by
    rw [← map_settleMaterial, Roster.names_map]
  constructor
  · rwa [names, Roster.names_keyed]
  · exact Roster.forall_keyed.2 fun _ _ => rfl
  · refine Roster.forall_keyed.2 (List.forall_mem_map.2 fun l hl => ?_)
    exact (form_settleMaterial ms' (forms l hl)).meshNamed
  · rw [Roster.names_keyed]
    exact compatible.children
  · exact Roster.forall_keyed.2 fun _ _ => rfl
  · rw [names]
    exact Roster.forall_keyed.2 compatible.parent_listed
  · rw [names]
    exact Roster.forall_keyed.2 compatible.child_listed

/-- The names of the links, in the order of their declaration. -/
def linkNames (root : Element) : List String :=
  (root.childrenNamed "link").filterMap (·.get? "name")

theorem linkNames_eq {root : Element} {d : Description} (h : (ofElement u root).result = .ok d) :
    linkNames root = d.links.names := by
  obtain ⟨-, ms, _, ms', js, -, hls, -, -, rfl⟩ := ofElement_ok_iff.1 h
  obtain ⟨ls, rfl, -, names, -⟩ := readLinks_start hls
  rw [Roster.names_map, Roster.names_keyed, linkNames]
  have named := congrArg (List.filterMap id) names
  rwa [List.filterMap_map, List.filterMap_map, Function.id_comp, Function.id_comp,
    List.filterMap_eq_map'] at named

theorem Consistent.parent_mem {d : Description} (hd : d.Consistent) {j : Joint}
    (hj : j ∈ d.joints.values) : j.parent ∈ d.links.names := by
  obtain ⟨e, he, rfl⟩ := List.mem_map.1 hj
  exact hd.parent_listed e he

theorem Consistent.child_mem {d : Description} (hd : d.Consistent) {j : Joint}
    (hj : j ∈ d.joints.values) : j.child ∈ d.links.names := by
  obtain ⟨e, he, rfl⟩ := List.mem_map.1 hj
  exact hd.child_listed e he

theorem ofText_ok {text : String} {d : Description} (h : (ofText u text).result = .ok d) :
    ∃ root, Xml.read text = .ok root ∧ (ofElement u root).result = .ok d := by
  unfold ofText at h
  split at h
  next => contradiction
  next root hroot => exact ⟨root, hroot, h⟩

theorem ofText_of_read {text : String} {root : Element} (h : Xml.read text = .ok root) :
    ofText u text = ofElement u root := by
  unfold ofText
  rw [h]

theorem consistent_of_ofText {text : String} {d : Description}
    (h : (ofText u text).result = .ok d) : d.Consistent := by
  obtain ⟨root, -, h⟩ := ofText_ok h
  exact consistent_of_ofElement h

def namesakeText : String :=
  "<robot name=\"arm\"><link name=\"base\"/><link name=\"arm\"/>" ++
    "<joint name=\"lift\" type=\"floating\"><parent link=\"base\"/><child link=\"arm\"/>" ++
    "<origin/></joint></robot>"

def namesakeElement : Element :=
  .mk "robot" [⟨"name", "arm"⟩] [
    .mk "link" [⟨"name", "base"⟩] [],
    .mk "link" [⟨"name", "arm"⟩] [],
    .mk "joint" [⟨"name", "lift"⟩, ⟨"type", "floating"⟩] [
      .mk "parent" [⟨"link", "base"⟩] [],
      .mk "child" [⟨"link", "arm"⟩] [],
      .mk "origin" [] []]]

theorem toList_append_of {a b : String} {as bs : List Char} (ha : a.toList = as)
    (hb : b.toList = bs) : (a ++ b).toList = as ++ bs := by
  rw [String.toList_append, ha, hb]

set_option maxRecDepth 100000 in
theorem read_namesakeText : Xml.read namesakeText = .ok namesakeElement :=
  Xml.read_of_toList
    (toList_append_of (toList_append_of String.toList_ofList String.toList_ofList)
      String.toList_ofList)
    (by decide) (by cbv)

theorem ofText_namesakeText (u : UpAxis) : ofText u namesakeText = ofElement u namesakeElement :=
  ofText_of_read read_namesakeText

def cellText : String :=
  "<robot name='cell'>
    <link name='arm'/>
    <link name='base'>
      <inertial><mass value='2'/></inertial>
      <visual>
        <geometry><mesh filename='a.stl'/></geometry>
        <material name='red'/>
      </visual>
    </link>
    <link name='tag'>
      <inertial><mass value='0'/></inertial>
      <visual><material name='red'><color rgba='1 0 0 1'/></material></visual>
    </link>
    <joint name='pin' type='fixed'>
      <parent link='base'/><child link='tag'/><origin/>
    </joint>
    <joint name='lift' type='floating'>
      <parent link='base'/><child link='arm'/><origin/>
    </joint>
  </robot>"

def cellElement : Element :=
  .mk "robot" [⟨"name", "cell"⟩] [
    .mk "link" [⟨"name", "arm"⟩] [],
    .mk "link" [⟨"name", "base"⟩] [
      .mk "inertial" [] [.mk "mass" [⟨"value", "2"⟩] []],
      .mk "visual" [] [
        .mk "geometry" [] [.mk "mesh" [⟨"filename", "a.stl"⟩] []],
        .mk "material" [⟨"name", "red"⟩] []]],
    .mk "link" [⟨"name", "tag"⟩] [
      .mk "inertial" [] [.mk "mass" [⟨"value", "0"⟩] []],
      .mk "visual" [] [
        .mk "material" [⟨"name", "red"⟩] [.mk "color" [⟨"rgba", "1 0 0 1"⟩] []]]],
    .mk "joint" [⟨"name", "pin"⟩, ⟨"type", "fixed"⟩] [
      .mk "parent" [⟨"link", "base"⟩] [],
      .mk "child" [⟨"link", "tag"⟩] [],
      .mk "origin" [] []],
    .mk "joint" [⟨"name", "lift"⟩, ⟨"type", "floating"⟩] [
      .mk "parent" [⟨"link", "base"⟩] [],
      .mk "child" [⟨"link", "arm"⟩] [],
      .mk "origin" [] []]]

set_option maxRecDepth 100000 in
theorem read_cellText : Xml.read cellText = .ok cellElement :=
  Xml.read_of_toList String.toList_ofList (by decide) (by cbv)

end Description

end Articulation
