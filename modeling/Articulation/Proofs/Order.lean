import Articulation.Proofs.Acceptance
import Articulation.Proofs.Pipeline
/-!
The order of the elements in a document. Joints may stand in any order: what is read of them is
found by the names of their children, and siblings follow the order of the links. Links, joints and
materials may also be mixed with each other, and with whatever else stands there, in any way.
-/
set_option autoImplicit false

namespace Articulation

open Xml (Element)

theorem Roster.find?_keyed_perm {α : Type} (key : α → String) {as bs : List α} (same : as.Perm bs)
    (distinct : (as.map key).Nodup) (name : String) :
    (keyed key as).find? name = (keyed key bs).find? name := by
  have found {cs : List α} (hcs : (cs.map key).Nodup) (a : α) :
      (keyed key cs).find? name = some a ↔ a ∈ cs ∧ key a = name := by
    rw [find?_of_keyed (forall_keyed.2 fun _ _ => rfl) (by rwa [names_keyed]), values_keyed]
  refine Option.ext fun a => ?_
  rw [found distinct, found ((same.map key).nodup_iff.1 distinct), same.mem_iff]

namespace Description

variable {u : UpAxis} {d d' : Description}

/-- A tree does not depend on the order in which the joints are listed. -/
theorem linkTree_congr (hd : d.Consistent) (hd' : d'.Consistent) (links : d'.links = d.links)
    (found : ∀ name, d'.joints.find? name = d.joints.find? name) (robotName : String) :
    d'.linkTree robotName = d.linkTree robotName := by
  have unclaimed : unclaimed d'.links d'.joints = unclaimed d.links d.joints := by
    simp only [unclaimed, Roster.contains, links, found]
  have edges : Articulation.edges d'.links d'.joints = Articulation.edges d.links d.joints := by
    simp only [Articulation.edges, links, found]
  unfold linkTree findRoot buildTree
  rw [unclaimed, edges, hd.checkJoints_eq, hd'.checkJoints_eq]
  simp only [links, found]

/-- The same records, of which the joints may be listed in another order. -/
structure SameRecords (d d' : Description) : Prop where
  robotName : d'.robotName = d.robotName
  links : d'.links = d.links
  materials : d'.materials = d.materials
  joints : ∀ name, d'.joints.find? name = d.joints.find? name

theorem ofElement_reordered (root root' : Element) (tag : root'.tag = root.tag)
    (name : root'.get? "name" = root.get? "name")
    (materials : root'.childrenNamed "material" = root.childrenNamed "material")
    (links : root'.childrenNamed "link" = root.childrenNamed "link")
    (joints : (root'.childrenNamed "joint").Perm (root.childrenNamed "joint"))
    (accepted : (ofElement u root).result = .ok d) :
    ∃ d', (ofElement u root').result = .ok d' ∧ d.SameRecords d' := by
  obtain ⟨tagged, ms, ls, ms', js, hms, hls, read, compatible, rfl⟩ := ofElement_ok_iff.1 accepted
  obtain ⟨js', read', same⟩ := List.perm_comp_forall₂ joints read
  refine ⟨⟨(root.get? "name").getD "robot", ls.map (settleMaterial ms'), byChild js', ms'⟩, ?_, ?_⟩
  · refine ofElement_ok_iff.2 ⟨tag.trans tagged, ms, ls, ms', js', ?_, ?_, read', ?_, ?_⟩
    · rwa [materials]
    · rwa [links]
    · exact compatible.perm same.symm
    · rw [name]
  · refine ⟨rfl, rfl, rfl, fun child => ?_⟩
    exact Roster.find?_keyed_perm Joint.child same (compatible.perm same.symm).children child

end Description

/-- The tags of the elements that a description is made of. -/
def recordTags : List String := ["material", "link", "joint"]

/-- The joints may change places, and the order of everything else stays what it is. -/
structure JointsReordered (es es' : List Element) : Prop where
  joints : (es'.filter (·.tag == "joint")).Perm (es.filter (·.tag == "joint"))
  others : es'.filter (·.tag != "joint") = es.filter (·.tag != "joint")

/-- The order within each kind of record stays what it is, and everything else may come and go. -/
def Interleaved (es es' : List Element) : Prop :=
  ∀ tag ∈ recordTags, es'.filter (·.tag == tag) = es.filter (·.tag == tag)

theorem JointsReordered.symm {es es' : List Element} (h : JointsReordered es es') :
    JointsReordered es' es := ⟨h.joints.symm, h.others.symm⟩

theorem JointsReordered.kept {es es' : List Element} (h : JointsReordered es es')
    {tag : String} (ne : tag ≠ "joint") :
    es'.filter (·.tag == tag) = es.filter (·.tag == tag) := by
  have inside (as : List Element) :
      as.filter (·.tag == tag) = (as.filter (·.tag != "joint")).filter (·.tag == tag) := by
    rw [List.filter_filter]
    refine List.filter_congr fun e _ => ?_
    by_cases here : e.tag = tag
    · simp [here, ne]
    · simp [here]
  rw [inside, h.others, ← inside]

namespace Compiler

variable (c : Compiler) {es es' : List Element}

theorem compileElement_reordered (tag : String) (attributes : List Xml.Attribute)
    (h : JointsReordered es es') {made : Compilation}
    (compiled : (c.compileElement (.mk tag attributes es)).result = .ok made) :
    (c.compileElement (.mk tag attributes es')).result = .ok made := by
  rw [result_compileElement] at compiled ⊢
  obtain ⟨d, accepted, rest⟩ := bind_eq_ok.1 compiled
  have accepted := mapError_eq_ok.1 accepted
  obtain ⟨d', accepted', robotName, links, materials, joints⟩ :=
    Description.ofElement_reordered (.mk tag attributes es) (.mk tag attributes es') rfl rfl
      (h.kept (by decide)) (h.kept (by decide)) h.joints accepted
  have trees := Description.linkTree_congr (Description.consistent_of_ofElement accepted)
    (Description.consistent_of_ofElement accepted') links joints d.robotName
  refine bind_eq_ok.2 ⟨d', mapError_eq_ok.2 accepted', ?_⟩
  rwa [robotName, trees, materials]

theorem compileElement_interleaved (tag : String) (attributes : List Xml.Attribute)
    (h : Interleaved es es') :
    c.compileElement (.mk tag attributes es') = c.compileElement (.mk tag attributes es) := by
  have kinds (kind : String) (listed : kind ∈ recordTags) :
      (Element.mk tag attributes es').childrenNamed kind =
        (Element.mk tag attributes es).childrenNamed kind := h kind listed
  have read (u : UpAxis) : Description.ofElement u (.mk tag attributes es') =
      Description.ofElement u (.mk tag attributes es) := by
    unfold Description.ofElement
    rw [kinds "material" (by decide), kinds "link" (by decide), kinds "joint" (by decide)]
    rfl
  unfold compileElement
  rw [read]

/-- The robot does not depend on where the joints stand. As long as the order within each kind of
record is kept, neither does a failure, nor anything that is noted on the way. -/
theorem compileElement_order (tag : String) (attributes : List Xml.Attribute)
    (es es' : List Element) :
    (JointsReordered es es' → ∀ made,
      (c.compileElement (.mk tag attributes es')).result = .ok made ↔
        (c.compileElement (.mk tag attributes es)).result = .ok made) ∧
    (Interleaved es es' →
      c.compileElement (.mk tag attributes es') = c.compileElement (.mk tag attributes es)) := by
  refine ⟨fun h made => ⟨?_, ?_⟩, c.compileElement_interleaved tag attributes⟩
  · exact c.compileElement_reordered tag attributes h.symm
  · exact c.compileElement_reordered tag attributes h

open Description (steelElement mountElement liftElement baseElement armElement cameraElement)

def watcherParts (first second : Element) : List Element :=
  [steelElement, first, baseElement, armElement, cameraElement, second]

def mixedParts : List Element :=
  [mountElement, liftElement, .mk "gazebo" [] [], baseElement, steelElement, armElement,
    cameraElement]

def unpruned : Compiler := ⟨{ Config.standard with prune := false }, none, none⟩

theorem compileElement_order_watcher :
    (∃ made, made.robot.nodes.map (·.link) = ["base", "arm", "camera"] ∧
      (unpruned.compileElement (.mk "robot" [] (watcherParts mountElement liftElement))).result =
        .ok made ∧
      (unpruned.compileElement (.mk "robot" [] (watcherParts liftElement mountElement))).result =
        .ok made) ∧
    unpruned.compileElement (.mk "robot" [] mixedParts) =
      unpruned.compileElement (.mk "robot" [] (watcherParts mountElement liftElement)) := by
  have reordered : JointsReordered (watcherParts mountElement liftElement)
      (watcherParts liftElement mountElement) := by
    refine ⟨?_, rfl⟩
    exact List.Perm.swap mountElement liftElement []
  have interleaved : Interleaved (watcherParts mountElement liftElement) mixedParts := by
    intro tag listed
    fin_cases listed <;> rfl
  have outcome : (unpruned.compileElement (.mk "robot" []
      (watcherParts mountElement liftElement))).result.toOption.map
        (fun made => made.robot.nodes.map (·.link)) = some ["base", "arm", "camera"] := by
    decide +kernel
  obtain ⟨made, compiled, links⟩ := exists_ok_of_map outcome
  refine ⟨⟨made, links, compiled, ?_⟩, ?_⟩
  · exact ((compileElement_order unpruned "robot" [] _ _).1 reordered made).2 compiled
  · exact (compileElement_order unpruned "robot" [] _ _).2 interleaved

end Compiler

end Articulation
