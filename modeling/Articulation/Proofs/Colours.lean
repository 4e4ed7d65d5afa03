import Articulation.Proofs.Blame
import Articulation.Proofs.Materials
/-!
Which colours of a document are looked at. That of a material which stands by itself always is. One
that comes along with a visual is passed over if its name has a colour by then, and nothing is asked
of it; so it need not be a colour at all.
-/
set_option autoImplicit false

namespace Articulation

open Xml (Element)

namespace Description

/-- Four numbers, none of them out of range. -/
def Legible (colour : Element) : Prop :=
  ∃ text row, colour.get? "rgba" = some text ∧ readRow? text = some row ∧ row.length = 4 ∧
    ∀ x ∈ row, 0 ≤ x ∧ x ≤ 1

/-- The first colour of every material that stands by itself, and that of every material which a
link shows. -/
def colours (root : Element) : List Element :=
  (root.childrenNamed "material").filterMap (·.child? "color") ++
    (root.childrenNamed "link").filterMap fun link => (surface? link).bind (·.child? "color")

/-- The colour of a material that is shown by the link right after those links. -/
def ComesAfter (root : Element) (earlier : List Element) (material colour : Element) : Prop :=
  ∃ link later, root.childrenNamed "link" = earlier ++ link :: later ∧
    surface? link = some material ∧ material.child? "color" = some colour

/-- The name of the material has its colour from elsewhere once those links have been read. -/
def Taken (root : Element) (earlier : List Element) (material : Element) : Prop :=
  match givenName? material with
  | none => True
  | some name => name = defaultMaterialName ∨ declarations root name ≠ [] ∨
    (earlier.filterMap fun link => (surface? link).bind (colourFor? name)) ≠ []

inductive Checked (root : Element) : Element → Prop where
  | declared {e colour : Element} (listed : e ∈ root.childrenNamed "material")
      (given : e.child? "color" = some colour) : Checked root colour
  | first {earlier : List Element} {e colour : Element} (here : ComesAfter root earlier e colour)
      (free : ¬Taken root earlier e) : Checked root colour

def PassedOver (root colour : Element) : Prop :=
  ∃ earlier e, ComesAfter root earlier e colour ∧ Taken root earlier e

def IsMalformed (u : UpAxis) (root : Element) : Prop :=
  ∃ e, (ofElement u root).result = .error e ∧ e.kind = .malformedDescription

/-- No document with a colour that cannot be read is accepted, and for one that has such a colour
the reason is that it is malformed. -/
structure ValidatesColours (u : UpAxis) (root : Element) : Prop where
  legible : ∀ d, (ofElement u root).result = .ok d → ∀ colour ∈ colours root, Legible colour
  malformed : ∀ colour ∈ colours root, ¬Legible colour → IsMalformed u root

variable {u : UpAxis} {root colour : Element}

theorem mem_colours_iff : colour ∈ colours root ↔ Checked root colour ∨ PassedOver root colour := by
  unfold colours
  rw [List.mem_append, List.mem_filterMap, List.mem_filterMap]
  constructor
  · rintro (⟨e, listed, given⟩ | ⟨link, listed, given⟩)
    · exact .inl (.declared listed given)
    · obtain ⟨e, shown, given⟩ := Option.bind_eq_some_iff.1 given
      obtain ⟨earlier, later, split⟩ := List.append_of_mem listed
      have here : ComesAfter root earlier e colour := ⟨link, later, split, shown, given⟩
      by_cases taken : Taken root earlier e
      · exact .inr ⟨earlier, e, here, taken⟩
      · exact .inl (.first here taken)
  · have shown {earlier : List Element} {e : Element} (here : ComesAfter root earlier e colour) :
        ∃ link ∈ root.childrenNamed "link",
          (surface? link).bind (·.child? "color") = some colour := by
      obtain ⟨link, later, split, shown, given⟩ := here
      exact ⟨link, by simp [split], by rw [shown, Option.bind_some, given]⟩
    rintro (checked | ⟨earlier, e, here, -⟩)
    · cases checked with
      | declared listed given => exact .inl ⟨_, listed, given⟩
      | first here free => exact .inr (shown here)
    · exact .inr (shown here)

theorem legible_of_colourOf {subject : String} {c : Colour} (h : colourOf colour subject = .ok c) :
    Legible colour := by
  obtain ⟨text, given, row⟩ := shows_of_colourOf h
  exact ⟨text, c.toList, given, row, rfl, inRange_of_colourOf h⟩

theorem legible_of_readMaterial {e : Element} {m : Material} (h : (readMaterial e).result = .ok m)
    (given : e.child? "color" = some colour) : Legible colour := by
  unfold readMaterial at h
  rw [Traced.result_bind] at h
  obtain ⟨name, -, h⟩ := bind_eq_ok.1 h
  rw [given] at h
  dsimp only at h
  rw [Traced.result_bind] at h
  obtain ⟨c, read, -⟩ := bind_eq_ok.1 h
  exact legible_of_colourOf read

theorem legible_of_readMaterials {ms ms' : Roster Material} (es : List Element)
    (h : (readMaterials ms es).result = .ok ms') :
    ∀ e ∈ es, e.child? "color" = some colour → Legible colour := by
  induction es generalizing ms with
  | nil => exact fun e listed => absurd listed List.not_mem_nil
  | cons e es ih =>
    rw [readMaterials, Traced.result_bind] at h
    obtain ⟨m, read, h⟩ := bind_eq_ok.1 h
    exact List.forall_mem_cons.2 ⟨legible_of_readMaterial read, ih h⟩

theorem legible_of_readVisualMaterial {link : String} {ms : Roster Material} {e : Element}
    {name : String} {made : String × Roster Material} (h : readVisualMaterial link ms e = .ok made)
    (named : givenName? e = some name) (free : ms.contains name = false)
    (given : e.child? "color" = some colour) : Legible colour := by
  unfold readVisualMaterial at h
  extract_lets chosen at h
  have here : chosen = (givenName? e).getD defaultMaterialName := (getD_givenName? e).symm
  rw [named, Option.getD_some] at here
  rw [here, given] at h
  dsimp only at h
  rw [if_neg (by rw [free]; exact Bool.false_ne_true)] at h
  obtain ⟨c, read, -⟩ := bind_eq_ok.1 h
  exact legible_of_colourOf read

theorem readSurface_of_readLink {ms : Roster Material} {link e : Element}
    {made : Link × Roster Material} (h : readLink u ms link = .ok made)
    (shown : surface? link = some e) :
    ∃ name surface, readVisualMaterial name ms e = .ok surface := by
  obtain ⟨name, -, h⟩ := bind_eq_ok.1 h
  unfold surface? at shown
  split at shown
  next => contradiction
  next inertial found =>
    obtain ⟨visual, seen, first⟩ := Option.bind_eq_some_iff.1 shown
    rw [found] at h
    dsimp only at h
    obtain ⟨body, -, h⟩ := bind_eq_ok.1 h
    rw [seen] at h
    dsimp only at h
    obtain ⟨surface, read, -⟩ := bind_eq_ok.1 h
    rw [readSurface, first] at read
    exact ⟨_, surface, read⟩

theorem readLinks_append (links : Roster Link) (ms : Roster Material) (es es' : List Element) :
    readLinks u links ms (es ++ es') =
      readLinks u links ms es >>= fun (links, ms) => readLinks u links ms es' := by
  induction es generalizing links ms with
  | nil => rfl
  | cons e es ih =>
    rw [List.cons_append, readLinks, readLinks]
    cases readLink u ms e with
    | error error => rfl
    | ok made =>
      dsimp only [ok_bind]
      split
      · rfl
      · exact ih _ _

theorem free_of_not_taken {ms ms' : Roster Material} {links links' : Roster Link}
    {earlier : List Element} {e : Element}
    (declared : (readMaterials (.ofList [(defaultMaterialName, defaultMaterial)])
      (root.childrenNamed "material")).result = .ok ms)
    (read : readLinks u links ms earlier = .ok (links', ms')) (free : ¬Taken root earlier e) :
    ∃ name, givenName? e = some name ∧ ms'.contains name = false := by
  unfold Taken at free
  split at free
  next => exact absurd trivial free
  next name named =>
    push Not at free
    obtain ⟨other, undeclared, none⟩ := free
    have builtIn : ms.contains defaultMaterialName = true :=
      (Roster.contains_iff ms _).2 (materialsListed_of_readMaterials _ .start declared).default
    have before := find?_readMaterials _ declared name
    rw [← declarations, undeclared, find?_start, if_neg other] at before
    have takes : Takes name _ ms ms' := takes_of_readLinks earlier builtIn read
    rw [none] at takes
    unfold Takes at takes
    rw [before] at takes
    exact ⟨name, named, by rw [Roster.contains, takes]; rfl⟩

theorem readable_of_not_malformed (h : ¬IsMalformed u root) :
    ∃ ms links ms', (readMaterials (.ofList [(defaultMaterialName, defaultMaterial)])
        (root.childrenNamed "material")).result = .ok ms ∧
      readLinks u .empty ms (root.childrenNamed "link") = .ok (links, ms') := by
  unfold IsMalformed ofElement at h
  split at h
  next => exact absurd ⟨_, rfl, rfl⟩ h
  next =>
    simp only [Traced.result_bind] at h
    cases declared : (readMaterials (.ofList [(defaultMaterialName, defaultMaterial)])
        (root.childrenNamed "material")).result with
    | error e =>
      rw [declared] at h
      exact absurd ⟨e, rfl, (faultOf_readMaterials _ declared).2⟩ h
    | ok ms =>
      rw [declared, ok_bind, Traced.result_liftM] at h
      cases read : readLinks u .empty ms (root.childrenNamed "link") with
      | error e =>
        rw [read] at h
        exact absurd ⟨e, rfl, (faultOf_readLinks _ read).2⟩ h
      | ok made => exact ⟨ms, made.1, made.2, rfl, read⟩

theorem legible_of_checked (checked : Checked root colour) (h : ¬IsMalformed u root) :
    Legible colour := by
  obtain ⟨ms, links, ms', declared, read⟩ := readable_of_not_malformed h
  cases checked with
  | declared listed given => exact legible_of_readMaterials _ declared _ listed given
  | first here free =>
    obtain ⟨link, later, split, shown, given⟩ := here
    rw [split, readLinks_append] at read
    obtain ⟨⟨links₁, ms₁⟩, before, read⟩ := bind_eq_ok.1 read
    obtain ⟨made, this, -⟩ := bind_eq_ok.1 read
    obtain ⟨name, named, new⟩ := free_of_not_taken declared before free
    obtain ⟨_, surface, material⟩ := readSurface_of_readLink this shown
    exact legible_of_readVisualMaterial material named new given

/-- Whoever gives an unreadable colour for a name without one is refused. In a document that is not
malformed, the colours that cannot be read are all passed over. -/
theorem validatesColours_iff (u : UpAxis) (root : Element) :
    (∀ colour, Checked root colour → ¬Legible colour → IsMalformed u root) ∧
    (ValidatesColours u root ↔
      IsMalformed u root ∨ ∀ colour, PassedOver root colour → Legible colour) := by
  have checked (colour : Element) (h : Checked root colour) (illegible : ¬Legible colour) :
      IsMalformed u root := by
    by_contra sound
    exact illegible (legible_of_checked h sound)
  refine ⟨checked, fun validates => ?_, fun sound => ?_⟩
  · by_cases malformed : IsMalformed u root
    · exact .inl malformed
    · refine .inr fun colour passed => ?_
      by_contra illegible
      exact malformed (validates.malformed colour (mem_colours_iff.2 (.inr passed)) illegible)
  · have malformed (colour : Element) (given : colour ∈ colours root)
        (illegible : ¬Legible colour) : IsMalformed u root := by
      rcases mem_colours_iff.1 given with read | passed
      · exact checked colour read illegible
      · exact sound.resolve_right fun legible => illegible (legible colour passed)
    refine ⟨fun d accepted colour given => ?_, malformed⟩
    by_contra illegible
    obtain ⟨e, refused, -⟩ := malformed colour given illegible
    rw [accepted] at refused
    contradiction

/-- The red that the base shows is none, but there is a red already. -/
def lampElement : Element :=
  .mk "robot" [⟨"name", "lamp"⟩] [
    .mk "material" [⟨"name", "red"⟩] [.mk "color" [⟨"rgba", "1 0 0 1"⟩] []],
    .mk "link" [⟨"name", "base"⟩] [
      .mk "inertial" [] [.mk "mass" [⟨"value", "1"⟩] []],
      .mk "visual" [] [.mk "material" [⟨"name", "red"⟩] [.mk "color" [] []]]]]

theorem not_validatesColours_lamp :
    (∃ d, (ofElement .y lampElement).result = .ok d) ∧
    (∃ colour ∈ colours lampElement, colour.get? "rgba" = none ∧ ¬Legible colour) ∧
    ¬ValidatesColours .y lampElement := by
  have outcome : (ofElement .y lampElement).result.toOption.map (·.materials.names) =
      some ["default", "red"] := by
    decide +kernel
  obtain ⟨d, accepted, -⟩ := exists_ok_of_map outcome
  obtain ⟨colour, given, bare⟩ : ∃ colour ∈ colours lampElement, colour.get? "rgba" = none := by
    decide +kernel
  have illegible : ¬Legible colour := by
    rintro ⟨text, row, shown, -⟩
    rw [bare] at shown
    cases shown
  exact ⟨⟨d, accepted⟩, ⟨colour, given, bare, illegible⟩,
    fun validates => illegible (validates.legible d accepted colour given)⟩

end Description

end Articulation
