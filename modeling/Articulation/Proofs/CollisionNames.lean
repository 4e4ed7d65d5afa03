import Articulation.Collision
import Articulation.Proofs.Acceptance
/-!
The names of collision meshes. An identifier keeps the root and the directories of the visual mesh
and its name but for the last suffix. It is a path in normal form, so the name that was written is
split again at the very dot that was written with it.
-/
set_option autoImplicit false

namespace Articulation

namespace AssetPath

theorem piecesAfter_append {piece cs : List Char} (plain : ∀ c ∈ piece, isSlash c = false)
    (before : List Char) :
    piecesAfter before (piece ++ cs) = piecesAfter (piece.reverse ++ before) cs := by
  induction piece generalizing before with
  | nil => rfl
  | cons c piece ih =>
    rw [List.forall_mem_cons] at plain
    rw [List.cons_append, piecesAfter, if_neg (by simp [plain.1]), ih plain.2]
    simp

theorem piecesAfter_slash (before cs : List Char) :
    piecesAfter before ('/' :: cs) = before.reverse :: piecesAfter [] cs := rfl

theorem piecesAfter_joined {c : List Char} {cs : List (List Char)}
    (plain : ∀ piece ∈ c :: cs, ∀ x ∈ piece, isSlash x = false) :
    piecesAfter [] (joined (c :: cs)) = c :: cs := by
  induction cs generalizing c with
  | nil =>
    have alone : piecesAfter [] (c ++ []) = piecesAfter (c.reverse ++ []) [] :=
      piecesAfter_append (plain c List.mem_cons_self) []
    simpa [joined, piecesAfter] using alone
  | cons d ds ih =>
    rw [List.forall_mem_cons] at plain
    have written : joined (c :: d :: ds) = c ++ '/' :: joined (d :: ds) := rfl
    rw [written, piecesAfter_append plain.1, piecesAfter_slash, ih plain.2]
    simp

theorem plain_of_mem_piecesAfter {before cs piece : List Char}
    (plain : ∀ c ∈ before, isSlash c = false) (h : piece ∈ piecesAfter before cs) :
    ∀ c ∈ piece, isSlash c = false := by
  induction cs generalizing before with
  | nil =>
    obtain rfl := List.mem_singleton.1 h
    simpa using plain
  | cons c cs ih =>
    rw [piecesAfter] at h
    split at h
    next =>
      rcases List.mem_cons.1 h with rfl | later
      · simpa using plain
      · exact ih (by simp) later
    next other => exact ih (List.forall_mem_cons.2 ⟨by simpa using other, plain⟩) h

def IsRoot (root : List Char) : Prop := root = [] ∨ root = ['/'] ∨ root = ['/', '/']

/-- A path of which nothing is lost when it is written. -/
structure Normal (p : AssetPath) : Prop where
  root : IsRoot p.root
  component : ∀ c ∈ p.components, isComponent c = true
  plain : ∀ c ∈ p.components, ∀ x ∈ c, isSlash x = false

theorem normal_ofString (text : String) : (ofString text).Normal where
  root := by
    unfold ofString ofChars rootOf
    dsimp only
    split
    · exact .inl rfl
    · exact .inr (.inr rfl)
    · exact .inr (.inl rfl)
  component c hc := (List.mem_filter.1 hc).2
  plain c hc := plain_of_mem_piecesAfter (by simp) (List.mem_filter.1 hc).1

theorem rootOf_append {root rest : List Char} {x : Char} (h : IsRoot root)
    (plain : isSlash x = false) : rootOf (root ++ x :: rest) = root := by
  have slash : isSlash '/' = true := rfl
  rcases h with rfl | rfl | rfl <;> simp [rootOf, slash, plain]

theorem filter_piecesAfter_append {root : List Char} (h : IsRoot root) (cs : List Char) :
    (piecesAfter [] (root ++ cs)).filter isComponent =
      (piecesAfter [] cs).filter isComponent := by
  rcases h with rfl | rfl | rfl <;> rfl

theorem exists_joined_eq {c : List Char} (cs : List (List Char)) (component : isComponent c = true)
    (plain : ∀ x ∈ c, isSlash x = false) :
    ∃ x rest, joined (c :: cs) = x :: rest ∧ isSlash x = false := by
  cases c with
  | nil => contradiction
  | cons x c =>
    refine ⟨x, ?_⟩
    have first := plain x List.mem_cons_self
    cases cs with
    | nil => exact ⟨c, rfl, first⟩
    | cons d ds => exact ⟨_, rfl, first⟩

theorem Normal.ofChars_toChars {p : AssetPath} (h : p.Normal) : ofChars p.toChars = p := by
  obtain ⟨root, components⟩ := p
  cases components with
  | nil =>
    obtain rfl | rfl | rfl : IsRoot root := h.root
    all_goals decide
  | cons c cs =>
    obtain ⟨x, rest, begins, first⟩ := exists_joined_eq cs
      (h.component c List.mem_cons_self) (h.plain c List.mem_cons_self)
    have pieces : (piecesAfter [] (joined (c :: cs))).filter isComponent = c :: cs := by
      rw [piecesAfter_joined h.plain]
      exact List.filter_eq_self.2 h.component
    have written : toChars ⟨root, c :: cs⟩ = root ++ joined (c :: cs) := by
      unfold toChars
      rw [begins, if_neg (by simp)]
    rw [written, ofChars, filter_piecesAfter_append h.root, pieces, begins,
      rootOf_append h.root first]

theorem Normal.ofString_toString {p : AssetPath} (h : p.Normal) : ofString p.toString = p := by
  rw [ofString, toString, String.toList_ofList, h.ofChars_toChars]

/-- The name ends in that extension, and there is something before its dot. -/
def Parts (name stem extension : List Char) : Prop :=
  name = stem ++ '.' :: extension ∧ stem ≠ [] ∧ extension ≠ [] ∧ '.' ∉ extension

/-- What is left of a name without its last suffix. -/
inductive HasStem (name : List Char) : List Char → Prop where
  | parted {stem extension : List Char} (parts : Parts name stem extension) : HasStem name stem
  | whole (none : ∀ stem extension, ¬Parts name stem extension) : HasStem name name

variable {name s e : List Char}

theorem suffix_of_parts (h : Parts name s e) : suffix name = '.' :: e := by
  obtain ⟨rfl, before, after, last⟩ := h
  have extension : (s ++ '.' :: e).reverse.takeWhile (· != '.') = e.reverse := by
    rw [List.reverse_append, List.reverse_cons, List.append_assoc, List.takeWhile_append_of_pos]
    · simp
    · intro c hc
      simpa using fun same : c = '.' => last (same ▸ List.mem_reverse.1 hc)
  have long := List.length_pos_iff.2 before
  unfold suffix
  dsimp only
  rw [extension, if_neg, List.reverse_reverse]
  simp [after]
  omega

theorem exists_parts (after : name.reverse.takeWhile (· != '.') ≠ [])
    (long : (name.reverse.takeWhile (· != '.')).length + 1 < name.length) :
    ∃ s e, Parts name s e := by
  have split := List.takeWhile_append_dropWhile (p := (· != '.')) (l := name.reverse)
  have plain : '.' ∉ name.reverse.takeWhile (· != '.') := fun mem => by
    simpa using List.mem_takeWhile_imp mem
  have dot := List.head?_dropWhile_not (· != '.') name.reverse
  generalize name.reverse.takeWhile (· != '.') = extension at *
  cases rest : name.reverse.dropWhile (· != '.') with
  | nil =>
    have count := congrArg List.length split
    rw [rest, List.append_nil, List.length_reverse] at count
    omega
  | cons d stem =>
    rw [rest] at split dot
    obtain rfl : d = '.' := by simpa using dot
    have same : name = stem.reverse ++ '.' :: extension.reverse := by
      rw [← List.reverse_reverse name, ← split]
      simp
    refine ⟨stem.reverse, extension.reverse, same, ?_, by simpa using after, by simpa using plain⟩
    intro first
    rw [same, first] at long
    simp at long

theorem stem_of_parts (h : Parts name s e) : stem name = s := by
  unfold stem
  rw [suffix_of_parts h, h.1]
  simp

theorem stem_of_whole (none : ∀ s e, ¬Parts name s e) : stem name = name := by
  suffices bare : suffix name = [] by simp [stem, bare]
  unfold suffix
  dsimp only
  split
  next => rfl
  next some =>
    rw [Bool.or_eq_true, not_or, List.isEmpty_iff, decide_eq_true_iff, not_le] at some
    obtain ⟨s, e, parts⟩ := exists_parts some.1 some.2
    exact absurd parts (none s e)

theorem hasStem_stem (name : List Char) : HasStem name (stem name) := by
  by_cases h : ∃ s e, Parts name s e
  · obtain ⟨s, e, parts⟩ := h
    rw [stem_of_parts parts]
    exact .parted parts
  · have none : ∀ s e, ¬Parts name s e := fun s e parts => h ⟨s, e, parts⟩
    rw [stem_of_whole none]
    exact .whole none

theorem stem_ne_nil (h : name ≠ []) : stem name ≠ [] := by
  have has := hasStem_stem name
  generalize stem name = s at has
  cases has with
  | parted parts => exact parts.2.1
  | whole _ => exact h

theorem withName?_eq {p : AssetPath} (named : p.name? = some name) (f : List Char → List Char) :
    p.withName? f = some ⟨p.root, p.components.dropLast ++ [f name]⟩ := by
  rw [withName?, named]
  rfl

theorem Normal.renamed {p : AssetPath} (h : p.Normal) (component : isComponent name = true)
    (plain : ∀ c ∈ name, isSlash c = false) :
    Normal ⟨p.root, p.components.dropLast ++ [name]⟩ where
  root := h.root
  component := List.forall_mem_append.2
    ⟨fun c hc => h.component c (List.mem_of_mem_dropLast hc), by simpa using component⟩
  plain := List.forall_mem_append.2
    ⟨fun c hc => h.plain c (List.mem_of_mem_dropLast hc), by simpa using plain⟩

end AssetPath

open AssetPath

/-- A path in normal form, to the file of that name right beside the asset. -/
structure Beside (asset identifier : String) (name : List Char) : Prop where
  root : (ofString identifier).root = (ofString asset).root
  components : (ofString identifier).components = (ofString asset).components.dropLast ++ [name]
  normal : (ofString identifier).toString = identifier

namespace Beside

variable {asset identifier identifier' : String} {name name' : List Char}

theorem name? (h : Beside asset identifier name) : (ofString identifier).name? = some name := by
  rw [AssetPath.name?, h.components]
  simp

theorem unique (h : Beside asset identifier name) (h' : Beside asset identifier' name) :
    identifier = identifier' := by
  have root := h.root.trans h'.root.symm
  have components := h.components.trans h'.components.symm
  rw [← h.normal, ← h'.normal, AssetPath.toString, toChars, root, components]
  rfl

theorem trans (h : Beside asset identifier name) (h' : Beside identifier identifier' name') :
    Beside asset identifier' name' where
  root := h'.root.trans h.root
  components := by rw [h'.components, h.components, List.dropLast_concat]
  normal := h'.normal

end Beside

namespace CollisionSource

def ending : CollisionSource → List Char
  | engineNative => ".obj".toList
  | externalDecomposition => "_hull.obj".toList

theorem collisionName_eq (source : CollisionSource) (name : List Char) :
    source.collisionName name = stem name ++ source.ending := by
  cases source <;> rfl

theorem ending_engineNative : engineNative.ending = ['.', 'o', 'b', 'j'] := by decide +kernel

theorem ending_externalDecomposition :
    externalDecomposition.ending = ['_', 'h', 'u', 'l', 'l', '.', 'o', 'b', 'j'] := by
  decide +kernel

theorem plain_ending (source : CollisionSource) : ∀ c ∈ source.ending, isSlash c = false := by
  cases source
  · simp [ending_engineNative, isSlash]
  · simp [ending_externalDecomposition, isSlash]

theorem isComponent_append_ending (s : List Char) (source : CollisionSource) :
    isComponent (s ++ source.ending) = true := by
  have long : 1 < (s ++ source.ending).length := by
    cases source
    · simp [ending_engineNative]
    · simp [ending_externalDecomposition]
  have some : s ++ source.ending ≠ [] := fun same => by simp [same] at long
  have two : s ++ source.ending ≠ ['.'] := fun same => by simp [same] at long
  simp [isComponent, two, some]

theorem stem_append_ending {s : List Char} (h : s ≠ []) : stem (s ++ engineNative.ending) = s := by
  rw [ending_engineNative]
  exact stem_of_parts ⟨rfl, h, by simp, by decide⟩

theorem stem_append_hull (s : List Char) : stem (s ++ externalDecomposition.ending) =
    s ++ ['_', 'h', 'u', 'l', 'l'] := by
  have parts : Parts (s ++ externalDecomposition.ending) (s ++ ['_', 'h', 'u', 'l', 'l'])
      ['o', 'b', 'j'] := by
    rw [ending_externalDecomposition]
    exact ⟨by simp, by simp, by simp, by decide⟩
  exact stem_of_parts parts

end CollisionSource

theorem native_ne_hull {asset native hull : String} {s : List Char}
    (beside : Beside asset native (s ++ CollisionSource.engineNative.ending))
    (beside' : Beside asset hull (s ++ CollisionSource.externalDecomposition.ending)) :
    native ≠ hull := by
  rintro rfl
  have same := Option.some.inj (beside.name?.symm.trans beside'.name?)
  rw [CollisionSource.ending_engineNative, CollisionSource.ending_externalDecomposition] at same
  simpa using congrArg List.length same

section Named

variable {asset : String} {name : List Char} (named : (ofString asset).name? = some name)

include named

theorem exists_identifier (source : CollisionSource) : ∃ identifier,
    collisionIdentifier? asset source = some identifier ∧
      Beside asset identifier (stem name ++ source.ending) := by
  have normal := normal_ofString asset
  have listed : name ∈ (ofString asset).components := List.mem_of_getLast? named
  have plain : ∀ c ∈ stem name ++ source.ending, isSlash c = false :=
    List.forall_mem_append.2
      ⟨fun c hc => normal.plain name listed c (List.mem_of_mem_take hc), source.plain_ending⟩
  have back := (normal.renamed (source.isComponent_append_ending (stem name)) plain
    ).ofString_toString
  refine ⟨_, ?_, by rw [back], by rw [back], by rw [back]⟩
  rw [collisionIdentifier?, withName?_eq named, Option.map_some, source.collisionName_eq]

theorem identifier_again {native : String}
    (beside : Beside asset native (stem name ++ CollisionSource.engineNative.ending)) :
    collisionIdentifier? native .engineNative = some native := by
  obtain ⟨again, identified, beside'⟩ := exists_identifier beside.name? .engineNative
  rw [CollisionSource.stem_append_ending (stem_ne_nil (name_ne_nil named))] at beside'
  rw [identified, beside.unique (beside.trans beside')]

theorem hull_ne_visual {hull : String}
    (beside : Beside asset hull (stem name ++ CollisionSource.externalDecomposition.ending)) :
    hull ≠ (ofString asset).toString := by
  intro visual
  have own : (ofString hull).name? = some name := by
    rw [visual, (normal_ofString asset).ofString_toString, named]
  have same : name = stem name ++ CollisionSource.externalDecomposition.ending :=
    Option.some.inj (own.symm.trans beside.name?)
  -- the stem of such a name is longer than the stem that it was made of
  have longer : stem name = stem name ++ ['_', 'h', 'u', 'l', 'l'] := by
    conv_lhs => rw [same, CollisionSource.stem_append_hull]
  simpa using congrArg List.length longer

end Named

/-- A path with a last component has an identifier of either source beside it, and the one that the
engine makes is its own; no path has the same identifier for both sources, nor one of the external
source that is the visual mesh. -/
theorem identifiers_beside (asset : String) :
    (∀ name, (ofString asset).name? = some name → ∃ stem native hull,
      HasStem name stem ∧
      collisionIdentifier? asset .engineNative = some native ∧
      Beside asset native (stem ++ ".obj".toList) ∧
      collisionIdentifier? asset .externalDecomposition = some hull ∧
      Beside asset hull (stem ++ "_hull.obj".toList) ∧
      collisionIdentifier? native .engineNative = some native) ∧
    ∀ hull, collisionIdentifier? asset .externalDecomposition = some hull →
      collisionIdentifier? asset .engineNative ≠ some hull ∧ hull ≠ (ofString asset).toString := by
  constructor
  · intro name named
    obtain ⟨native, identified, beside⟩ := exists_identifier named .engineNative
    obtain ⟨hull, identified', beside'⟩ := exists_identifier named .externalDecomposition
    exact ⟨stem name, native, hull, hasStem_stem name, identified, beside, identified', beside',
      identifier_again named beside⟩
  · intro hull identified
    cases named : (ofString asset).name? with
    | none => simp [collisionIdentifier?, withName?, named] at identified
    | some name =>
      obtain ⟨native, identified', beside⟩ := exists_identifier named .engineNative
      obtain ⟨hull', identified'', beside'⟩ := exists_identifier named .externalDecomposition
      obtain rfl : hull = hull' := Option.some.inj (identified.symm.trans identified'')
      rw [identified']
      exact ⟨fun same => native_ne_hull beside beside' (Option.some.inj same),
        hull_ne_visual named beside'⟩

theorem identifiers_beside_upperArm :
    (ofString "//cell/./meshes//.upper.arm.dae/").name? = some ".upper.arm.dae".toList ∧
    collisionIdentifier? "//cell/./meshes//.upper.arm.dae/" .engineNative =
      some "//cell/meshes/.upper.arm.obj" ∧
    ∃ stem native hull, HasStem ".upper.arm.dae".toList stem ∧
      collisionIdentifier? "//cell/./meshes//.upper.arm.dae/" .engineNative = some native ∧
      Beside "//cell/./meshes//.upper.arm.dae/" native (stem ++ ".obj".toList) ∧
      collisionIdentifier? "//cell/./meshes//.upper.arm.dae/" .externalDecomposition = some hull ∧
      Beside "//cell/./meshes//.upper.arm.dae/" hull (stem ++ "_hull.obj".toList) ∧
      collisionIdentifier? native .engineNative = some native := by
  have named : (ofString "//cell/./meshes//.upper.arm.dae/").name? =
      some ".upper.arm.dae".toList := by
    decide +kernel
  exact ⟨named, by decide +kernel, (identifiers_beside _).1 _ named⟩

end Articulation
