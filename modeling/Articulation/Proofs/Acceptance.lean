import Articulation.Proofs.Records
/-!
What an accepted description holds. `faithful_of_ofElement` says it clause by clause: no record is
lost, every reference among the records leads somewhere, and every value is one that the later
stages can use without a check of their own.
-/
set_option autoImplicit false

namespace Articulation

open Xml (Element)

/-- Every component lies between nothing and all. -/
def Colour.InRange (c : Colour) : Prop := ∀ x ∈ c.toList, 0 ≤ x ∧ x ≤ 1

theorem inRange_defaultColour : defaultColour.InRange := by
  simp only [Colour.InRange, defaultColour, Colour.toList, List.forall_mem_cons]
  decide +kernel

namespace AssetPath

theorem name_ne_nil {text : String} {name : List Char}
    (h : (ofString text).name? = some name) : name ≠ [] := by
  have listed : name ∈ (ofString text).components := List.mem_of_getLast? h
  have component := (List.mem_filter.1 listed).2
  rintro rfl
  contradiction

end AssetPath

namespace Link.Form

variable {l : Link} (h : l.Form)

include h

theorem mesh_name (mesh : l.hasMesh = true) :
    ∃ name, name ≠ [] ∧ (AssetPath.ofString l.asset).name? = some name := by
  obtain ⟨name, found⟩ := Option.isSome_iff_exists.1 (h.meshNamed mesh)
  exact ⟨name, AssetPath.name_ne_nil found, found⟩

theorem no_reference (noMesh : l.hasMesh = false) : l.meshReference = "" := by
  cases h with
  | sensor same =>
    rw [same]
    rfl
  | bare _ _ empty => exact empty
  | shown _ mesh _ =>
    rw [noMesh] at mesh
    contradiction

theorem massless (only : l.isSensorOnly = true) : l.mass = 0 ∧ l.hasMesh = false := by
  cases h with
  | sensor same =>
    rw [same]
    exact ⟨rfl, rfl⟩
  | bare body _ _ | shown body _ _ =>
    rw [only] at body
    contradiction

end Link.Form

namespace Description

variable {u : UpAxis}

theorem isShare_iff {x : Float} : isShare x = true ↔ 0 ≤ x ∧ x ≤ 1 := by simp [isShare]

theorem inRange_of_readColour {text subject : String} {c : Colour}
    (h : readColour text subject = .ok c) : c.InRange := by
  unfold readColour at h
  split at h
  next => contradiction
  next row hrow =>
    split at h
    next shares =>
      cases h
      intro x hx
      rw [Colour.toList_ofList] at hx
      exact isShare_iff.1 (List.all_eq_true.1 shares x hx)
    next => contradiction

theorem inRange_of_colourOf {colour : Element} {subject : String} {c : Colour}
    (h : colourOf colour subject = .ok c) : c.InRange := by
  obtain ⟨text, _, h⟩ := bind_eq_ok.1 h
  exact inRange_of_readColour h

theorem inRange_of_readMaterial {e : Element} {m : Material}
    (h : (readMaterial e).result = .ok m) : m.colour.InRange := by
  unfold readMaterial at h
  rw [Traced.result_bind] at h
  obtain ⟨name, _, h⟩ := bind_eq_ok.1 h
  split at h
  next =>
    cases h
    exact inRange_defaultColour
  next colour _ =>
    rw [Traced.result_bind] at h
    obtain ⟨c, read, h⟩ := bind_eq_ok.1 h
    cases h
    exact inRange_of_colourOf read

/-- What every material read so far adds to and leaves intact. -/
structure MaterialsListed (ms : Roster Material) : Prop where
  nodup : ms.names.Nodup
  default : defaultMaterialName ∈ ms.names
  listed : ∀ e ∈ ms.entries, e.2.name = e.1
  in_range : ∀ e ∈ ms.entries, e.2.colour.InRange

theorem MaterialsListed.start :
    MaterialsListed (.ofList [(defaultMaterialName, defaultMaterial)]) := by
  have entries : (Roster.ofList [(defaultMaterialName, defaultMaterial)]).entries =
      [(defaultMaterialName, defaultMaterial)] := rfl
  constructor
  · simp [Roster.names, entries]
  · simp [Roster.names, entries]
  · rw [entries, List.forall_mem_singleton]
    rfl
  · rw [entries, List.forall_mem_singleton]
    exact inRange_defaultColour

theorem MaterialsListed.insert {ms : Roster Material} (h : MaterialsListed ms) {m : Material}
    (hm : m.colour.InRange) : MaterialsListed (ms.insert m.name m) where
  nodup := Roster.names_insert_nodup h.nodup m.name m
  default := Roster.mem_names_insert.2 (.inr h.default)
  listed := Roster.forall_entries_insert h.listed rfl
  in_range := Roster.forall_entries_insert h.in_range hm

theorem materialsListed_of_readMaterials {ms ms' : Roster Material} (es : List Element)
    (hm : MaterialsListed ms) (h : (readMaterials ms es).result = .ok ms') :
    MaterialsListed ms' := by
  induction es generalizing ms with
  | nil =>
    cases h
    exact hm
  | cons e es ih =>
    rw [readMaterials, Traced.result_bind] at h
    obtain ⟨m, read, h⟩ := bind_eq_ok.1 h
    exact ih (hm.insert (inRange_of_readMaterial read)) h

theorem materialsListed_of_readSurface {link material : String} {ms ms' : Roster Material}
    {visual : Element} (hm : MaterialsListed ms)
    (h : readSurface link ms visual = .ok (material, ms')) : MaterialsListed ms' := by
  unfold readSurface at h
  split at h
  next =>
    cases h
    exact hm
  next e _ =>
    unfold readVisualMaterial at h
    extract_lets name at h
    clear_value name
    split at h
    next =>
      cases h
      exact hm
    next colour _ =>
      split at h
      next =>
        cases h
        exact hm
      next =>
        obtain ⟨c, read, h⟩ := bind_eq_ok.1 h
        cases h
        have shade : (Material.mk material c).colour.InRange := inRange_of_colourOf read
        exact hm.insert shade

theorem materialsListed_of_readLink {ms ms' : Roster Material} {e : Element} {l : Link}
    (hm : MaterialsListed ms) (h : readLink u ms e = .ok (l, ms')) : MaterialsListed ms' := by
  obtain ⟨name, _, h⟩ := bind_eq_ok.1 h
  split at h
  next =>
    cases h
    exact hm
  next =>
    obtain ⟨body, _, h⟩ := bind_eq_ok.1 h
    split at h
    next =>
      cases h
      exact hm
    next visual _ =>
      obtain ⟨⟨material, materials⟩, surface, h⟩ := bind_eq_ok.1 h
      obtain ⟨shown, _, h⟩ := bind_eq_ok.1 h
      cases h
      exact materialsListed_of_readSurface hm surface

theorem materialsListed_of_readLinks {links links' : Roster Link} {ms ms' : Roster Material}
    (es : List Element) (hm : MaterialsListed ms)
    (h : readLinks u links ms es = .ok (links', ms')) : MaterialsListed ms' := by
  induction es generalizing links ms with
  | nil =>
    cases h
    exact hm
  | cons e es ih =>
    obtain ⟨⟨l, materials⟩, read, h⟩ := bind_eq_ok.1 h
    simp only at h
    split at h
    next => contradiction
    next => exact ih (materialsListed_of_readLink hm read) h

theorem materialsListed_of_ofElement {root : Element} {d : Description}
    (h : (ofElement u root).result = .ok d) : MaterialsListed d.materials := by
  obtain ⟨-, ms, ls, ms', js, hms, hls, -, -, rfl⟩ := ofElement_ok_iff.1 h
  exact materialsListed_of_readLinks _ (materialsListed_of_readMaterials _ .start hms) hls

theorem material_settled {ms : Roster Material} (default : defaultMaterialName ∈ ms.names)
    (l : Link) : (settleMaterial ms l).materialName ∈ ms.names := by
  unfold settleMaterial
  split
  next declared => exact (Roster.contains_iff ms _).1 declared
  next => exact default

/-- What a description holds of the element that it is read from. -/
structure Faithful (root : Element) (d : Description) : Prop where
  links_size : d.links.size = (root.childrenNamed "link").length
  joints_size : d.joints.size = (root.childrenNamed "joint").length
  links_order : (root.childrenNamed "link").map (·.get? "name") = d.links.names.map some
  links_distinct : d.links.names.Nodup
  link_listed : ∀ e ∈ d.links.entries, e.2.name = e.1
  joints_distinct : d.joints.names.Nodup
  joint_listed : ∀ e ∈ d.joints.entries, e.2.child = e.1
  joint_names : (d.joints.values.map Joint.name).Nodup
  parent_listed : ∀ j ∈ d.joints.values, j.parent ∈ d.links.names
  child_listed : ∀ j ∈ d.joints.values, j.child ∈ d.links.names
  materials_distinct : d.materials.names.Nodup
  default_material : defaultMaterialName ∈ d.materials.names
  material_listed : ∀ e ∈ d.materials.entries, e.2.name = e.1
  colour_in_range : ∀ m ∈ d.materials.values, ∀ x ∈ m.colour.toList, 0 ≤ x ∧ x ≤ 1
  link_material : ∀ l ∈ d.links.values, l.materialName ∈ d.materials.names
  mesh : ∀ l ∈ d.links.values, l.hasMesh = true →
    ∃ name, name ≠ [] ∧ (AssetPath.ofString l.asset).name? = some name
  no_mesh : ∀ l ∈ d.links.values, l.hasMesh = false → l.meshReference = ""
  sensor : ∀ l ∈ d.links.values, l.isSensorOnly = true → l.mass = 0 ∧ l.hasMesh = false

theorem faithful_of_ofElement {root : Element} {d : Description}
    (h : (ofElement u root).result = .ok d) : d.Faithful root := by
  have hd := consistent_of_ofElement h
  obtain ⟨-, ms, _, ms', js, hms, hls, read, compatible, rfl⟩ := ofElement_ok_iff.1 h
  have materials := materialsListed_of_readLinks _
    (materialsListed_of_readMaterials _ .start hms) hls
  obtain ⟨ls, rfl, -, names, forms⟩ := readLinks_start hls
  rw [map_settleMaterial] at hd ⊢
  have of_links {p : Link → Prop} (h : ∀ l ∈ ls, p (settleMaterial ms' l)) :
      ∀ l ∈ (byName (ls.map (settleMaterial ms'))).values, p l := by
    rw [Roster.values_keyed]
    exact List.forall_mem_map.2 h
  have of_forms {p : Link → Prop} (h : ∀ l, l.Form → p l) :
      ∀ l ∈ (byName (ls.map (settleMaterial ms'))).values, p l :=
    of_links fun l hl => h _ (form_settleMaterial ms' (forms l hl))
  constructor
  · have count := congrArg List.length names
    simpa [Roster.size, Roster.keyed] using count.symm
  · simpa [Roster.size, Roster.keyed] using read.length_eq.symm
  · rw [names, Roster.names_keyed, List.map_map, List.map_map]
    exact List.map_congr_left fun l _ => congrArg some (name_settleMaterial ms' l).symm
  · exact hd.links_nodup
  · exact hd.link_listed
  · exact hd.joints_nodup
  · exact hd.joint_listed
  · rw [Roster.values_keyed]
    exact compatible.names
  · exact fun j hj => hd.parent_mem hj
  · exact fun j hj => hd.child_mem hj
  · exact materials.nodup
  · exact materials.default
  · exact materials.listed
  · intro m hm
    obtain ⟨e, he, rfl⟩ := List.mem_map.1 hm
    exact materials.in_range e he
  · exact of_links fun l _ => material_settled materials.default l
  · exact of_forms fun l form => form.mesh_name
  · exact of_forms fun l form => form.no_reference
  · exact of_forms fun l form => form.massless

def steelElement : Element := .mk "material" [⟨"name", "steel"⟩] []

def baseElement : Element :=
  .mk "link" [⟨"name", "base"⟩] [
    .mk "inertial" [] [.mk "mass" [⟨"value", "2"⟩] []],
    .mk "visual" [] [
      .mk "material" [⟨"name", "red"⟩] [.mk "color" [⟨"rgba", "1 0 0 1"⟩] []],
      .mk "geometry" [] [.mk "mesh" [⟨"filename", "package://arm/base.dae"⟩] []]]]

def armElement : Element :=
  .mk "link" [⟨"name", "arm"⟩] [
    .mk "inertial" [] [.mk "mass" [⟨"value", "1"⟩] []],
    .mk "visual" [] [.mk "material" [⟨"name", "gold"⟩] []]]

def cameraElement : Element := .mk "link" [⟨"name", "camera"⟩] []

def liftElement : Element :=
  .mk "joint" [⟨"name", "lift"⟩, ⟨"type", "continuous"⟩] [
    .mk "parent" [⟨"link", "base"⟩] [],
    .mk "child" [⟨"link", "arm"⟩] [],
    .mk "origin" [⟨"rpy", "0 1.5 0"⟩] [],
    .mk "axis" [⟨"xyz", "0 0 1"⟩] []]

def mountElement : Element :=
  .mk "joint" [⟨"name", "mount"⟩, ⟨"type", "fixed"⟩] [
    .mk "parent" [⟨"link", "arm"⟩] [],
    .mk "child" [⟨"link", "camera"⟩] [],
    .mk "origin" [⟨"xyz", "0 0 0.5"⟩] []]

def watcherElement : Element :=
  .mk "robot" [] [steelElement, mountElement, baseElement, armElement, cameraElement, liftElement]

theorem faithful_watcherElement : ∃ d, (ofElement .y watcherElement).result = .ok d ∧
    d.links.names = ["base", "arm", "camera"] ∧ d.joints.names = ["camera", "arm"] ∧
    d.links.values.map (fun l => (l.materialName, l.asset)) =
      [("red", "arm/base.dae"), ("default", ""), ("default", "")] ∧
    d.materials.names = ["default", "steel", "red"] ∧ d.Faithful watcherElement := by
  have outcome : (ofElement .y watcherElement).result.toOption.map (fun d =>
      (d.links.names, d.joints.names, d.links.values.map fun l => (l.materialName, l.asset),
        d.materials.names)) =
      some (["base", "arm", "camera"], ["camera", "arm"],
        [("red", "arm/base.dae"), ("default", ""), ("default", "")],
        ["default", "steel", "red"]) := by
    decide +kernel
  obtain ⟨d, accepted, shape⟩ := exists_ok_of_map outcome
  simp only [Prod.mk.injEq] at shape
  obtain ⟨links, joints, shown, materials⟩ := shape
  exact ⟨d, accepted, links, joints, shown, materials, faithful_of_ofElement accepted⟩

end Description

end Articulation
