import Articulation.Config.File
import Articulation.Proofs.PlainLines
/-!
Configurations that are saved, read again and changed. A configuration is what some options say; it
is read from its own text and from its own options, and what is set on the command line goes before
what a file says, which goes before the defaults.
-/
set_option autoImplicit false

namespace Articulation

namespace Text

theorem toList_loop (bytes : ByteArray) (i : ℕ) (before : List UInt8) :
    ByteArray.toList.loop bytes i before = before.reverse ++ bytes.data.toList.drop i := by
  fun_induction ByteArray.toList.loop bytes i before with
  | case1 i before inside ih =>
    have inside : i < bytes.data.toList.length := inside
    have here : bytes.get! i = bytes.data.toList[i] := getElem!_pos bytes.data i inside
    rw [ih, here, List.drop_eq_getElem_cons inside]
    simp
  | case2 i before outside =>
    have outside : bytes.data.toList.length ≤ i := Nat.not_lt.1 outside
    rw [List.drop_eq_nil_of_le outside, List.append_nil]

def asciiByte (c : Char) : UInt8 := UInt8.ofNat c.toNat

theorem toUTF8_ofList {cs : List Char} (ascii : ∀ c ∈ cs, c.toNat < 128) :
    (String.ofList cs).toUTF8.toList = cs.map asciiByte := by
  have encode {c : Char} (h : c.toNat < 128) : String.utf8EncodeChar c = [asciiByte c] := by
    have small : c.val.toNat ≤ 127 := Nat.le_of_lt_succ h
    simp only [String.utf8EncodeChar, small, if_true]
    rfl
  have bytes : cs.flatMap String.utf8EncodeChar = cs.map asciiByte := by
    rw [List.map_eq_flatMap]
    exact List.flatMap_congr fun c h => encode (ascii c h)
  rw [String.toUTF8, String.toByteArray_ofList, List.utf8Encode, bytes, ByteArray.toList,
    toList_loop]
  simp

theorem decodeUtf8_ascii {cs : List Char} (ascii : ∀ c ∈ cs, c.toNat < 128) (position : ℕ) :
    decodeFrom position (cs.map asciiByte) = .ok cs := by
  induction cs generalizing position with
  | nil => rw [List.map_nil, decodeFrom]
  | cons c cs ih =>
    have here := ascii c List.mem_cons_self
    have byte : (asciiByte c).toNat = c.toNat := UInt8.toNat_ofNat_of_lt (by
      have : UInt8.size = 256 := rfl
      omega)
    have small : asciiByte c < 0x80 := by
      rw [UInt8.lt_iff_toNat_lt, byte]
      exact here
    have first : decodeFirst (asciiByte c) (cs.map asciiByte) = .ok (c, 1) := by
      rw [decodeFirst, if_pos small, byte, Char.ofNat_toNat]
    have later := ih (fun d h => ascii d (List.mem_cons_of_mem c h)) (position + 1)
    rw [List.map_cons, decodeFrom, first]
    simp [later, Except.map]

theorem unifyLineEnds_eq {cs : List Char} (h : '\r' ∉ cs) : unifyLineEnds cs = cs := by
  induction cs with
  | nil => rfl
  | cons c cs ih =>
    have other : c ≠ '\r' := fun same => h (same ▸ List.mem_cons_self)
    have later := ih fun mem => h (List.mem_cons_of_mem c mem)
    unfold unifyLineEnds
    simp [other, later]

end Text

theorem fileText_ascii (path : String) {text : String}
    (ascii : ∀ c ∈ text.toList, c.toNat < 128 ∧ c ≠ '\r') :
    fileText path (.ok text.toUTF8.toList) = .ok text := by
  have bytes := Text.toUTF8_ofList fun c h => (ascii c h).1
  have read := Text.decodeUtf8_ascii (fun c h => (ascii c h).1) 0
  have lines := Text.unifyLineEnds_eq fun h => (ascii _ h).2 rfl
  rw [String.ofList_toList] at bytes
  simp only [fileText, bytes, Text.decodeUtf8, read, lines, String.ofList_toList]

namespace Config

/-- What an option is: what it is read as if it is given, else its default. -/
def Gives {α : Type} (options : Options) (name : String) (default : α)
    (read : OptionValue → Except OptionFault α) (a : α) : Prop :=
  match options.lookup name with
  | none => a = default
  | some v => read v = .ok a

/-- Every option that is given is known and well-formed, and the configuration has its value; it
has the defaults of the others. -/
structure Follows (options : Options) (c : Config) : Prop where
  upAxis : Gives options "up_axis" standard.upAxis (OptionValue.choice UpAxis.all UpAxis.name)
    c.upAxis
  immovableRoot : Gives options "immovable_root" standard.immovableRoot OptionValue.asTruth
    c.immovableRoot
  prune : Gives options "prune" standard.prune OptionValue.asTruth c.prune
  threshold : Gives options "prune_mass_threshold" standard.pruneMassThreshold
    OptionValue.asThreshold c.pruneMassThreshold
  requireNoMesh : Gives options "prune_require_no_mesh" standard.pruneRequireNoMesh
    OptionValue.asTruth c.pruneRequireNoMesh
  collisionSource : Gives options "collision_source" standard.collisionSource
    (OptionValue.choice CollisionSource.all CollisionSource.name) c.collisionSource
  requireCollision : Gives options "require_collision" standard.requireCollision
    OptionValue.asTruth c.requireCollision
  renameRoot : Gives options "rename_root" standard.renameRoot OptionValue.asTruth c.renameRoot
  known : ∀ o ∈ options, o.1 ∈ optionNames

theorem option_eq_iff {α : Type} {options : Options} {name : String} {default a : α}
    {read : OptionValue → Except OptionFault α} :
    option options name default read = (a, []) ↔ Gives options name default read a := by
  unfold option Gives
  cases options.lookup name with
  | none => simp [eq_comm]
  | some v => cases given : read v <;> simp [given]

theorem unknownOptions_eq_nil_iff {options : Options} :
    unknownOptions options = [] ↔ ∀ o ∈ options, o.1 ∈ optionNames := by
  simp [unknownOptions, List.filter_eq_nil_iff]

theorem ofOptions_eq_ok_iff {options : Options} {c : Config} :
    ofOptions options = .ok c ↔ Follows options c := by
  constructor
  · intro accepted
    unfold ofOptions at accepted
    dsimp only at accepted
    split at accepted
    next none =>
      cases accepted
      simp only [List.append_eq_nil_iff] at none
      obtain ⟨⟨⟨⟨⟨⟨⟨⟨upAxis, immovableRoot⟩, prune⟩, threshold⟩, requireNoMesh⟩, collisionSource⟩,
        requireCollision⟩, renameRoot⟩, known⟩ := none
      exact ⟨option_eq_iff.1 (Prod.ext rfl upAxis), option_eq_iff.1 (Prod.ext rfl immovableRoot),
        option_eq_iff.1 (Prod.ext rfl prune), option_eq_iff.1 (Prod.ext rfl threshold),
        option_eq_iff.1 (Prod.ext rfl requireNoMesh),
        option_eq_iff.1 (Prod.ext rfl collisionSource),
        option_eq_iff.1 (Prod.ext rfl requireCollision), option_eq_iff.1 (Prod.ext rfl renameRoot),
        unknownOptions_eq_nil_iff.1 known⟩
    next => contradiction
  · intro h
    simp only [ofOptions, option_eq_iff.2 h.upAxis, option_eq_iff.2 h.immovableRoot,
      option_eq_iff.2 h.prune, option_eq_iff.2 h.threshold, option_eq_iff.2 h.requireNoMesh,
      option_eq_iff.2 h.collisionSource, option_eq_iff.2 h.requireCollision,
      option_eq_iff.2 h.renameRoot, unknownOptions_eq_nil_iff.2 h.known, List.append_nil]

theorem asThreshold_eq_ok_iff {v : OptionValue} {x : Float} :
    v.asThreshold = .ok x ↔ v.asNumber = .ok x ∧ 0 ≤ x := by
  cases number : v.asNumber with
  | error fault => simp [OptionValue.asThreshold, number, bind, Except.bind]
  | ok y =>
    by_cases nonneg : 0 ≤ y
    · simp [OptionValue.asThreshold, number, nonneg, bind, Except.bind, pure, Except.pure]
      rintro rfl
      exact nonneg
    · simp [OptionValue.asThreshold, number, nonneg, bind, Except.bind]
      rintro rfl
      exact nonneg

theorem Follows.nonneg {options : Options} {c : Config} (h : Follows options c) :
    0 ≤ c.pruneMassThreshold := by
  have threshold := h.threshold
  unfold Gives at threshold
  split at threshold
  · rw [threshold]
    decide +kernel
  · exact (asThreshold_eq_ok_iff.1 threshold).2

/-- The configuration with what is set on the command line in the place of its own options. -/
def override (c : Config) (o : Overrides) : Config :=
  { c with
    upAxis := o.upAxis.getD c.upAxis
    collisionSource := o.collisionSource.getD c.collisionSource
    prune := o.prune.getD c.prune }

theorem merged_entries (c : Config) (o : Overrides) :
    (Roster.ofList (c.dump ++ o.options)).entries = [
      ("up_axis", (o.upAxis.map fun u => .text u.name).getD (.member (.upAxis c.upAxis))),
      ("immovable_root", .truth c.immovableRoot),
      ("prune", .truth (o.prune.getD c.prune)),
      ("prune_mass_threshold", .real c.pruneMassThreshold),
      ("prune_require_no_mesh", .truth c.pruneRequireNoMesh),
      ("collision_source", (o.collisionSource.map fun s => .text s.name).getD
        (.member (.collisionSource c.collisionSource))),
      ("require_collision", .truth c.requireCollision),
      ("rename_root", .truth c.renameRoot)] := by
  obtain ⟨upAxis, source, prune⟩ := o
  cases upAxis <;> cases source <;> cases prune <;> rfl

theorem choice_upAxis (u : UpAxis) :
    OptionValue.choice UpAxis.all UpAxis.name (.text u.name) = .ok u ∧
      OptionValue.choice UpAxis.all UpAxis.name (.member (.upAxis u)) = .ok u := by
  cases u <;> decide +kernel

theorem choice_collisionSource (s : CollisionSource) :
    OptionValue.choice CollisionSource.all CollisionSource.name (.text s.name) = .ok s ∧
      OptionValue.choice CollisionSource.all CollisionSource.name (.member (.collisionSource s)) =
        .ok s := by
  cases s <;> decide +kernel

theorem asThreshold_real {x : Float} (nonneg : 0 ≤ x) :
    OptionValue.asThreshold (.real x) = .ok x :=
  asThreshold_eq_ok_iff.2 ⟨rfl, nonneg⟩

theorem merge_eq {c : Config} (nonneg : 0 ≤ c.pruneMassThreshold) (o : Overrides) :
    c.merge o = .ok (c.override o) := by
  have upAxis : OptionValue.choice UpAxis.all UpAxis.name
      ((o.upAxis.map fun u => .text u.name).getD (.member (.upAxis c.upAxis))) =
        .ok (o.upAxis.getD c.upAxis) := by
    cases o.upAxis with
    | none => exact (choice_upAxis c.upAxis).2
    | some u => exact (choice_upAxis u).1
  have source : OptionValue.choice CollisionSource.all CollisionSource.name
      ((o.collisionSource.map fun s => .text s.name).getD
        (.member (.collisionSource c.collisionSource))) =
        .ok (o.collisionSource.getD c.collisionSource) := by
    cases o.collisionSource with
    | none => exact (choice_collisionSource c.collisionSource).2
    | some s => exact (choice_collisionSource s).1
  rw [merge, merged_entries, ofOptions_eq_ok_iff]
  exact ⟨upAxis, rfl, rfl, asThreshold_real nonneg, rfl, source, rfl, rfl, by simp [optionNames]⟩

theorem ofOptions_dump {c : Config} (nonneg : 0 ≤ c.pruneMassThreshold) :
    ofOptions c.dump = .ok c :=
  merge_eq nonneg .nothing

def savedOptions (c : Config) : Options := c.data.map fun f => (f.1, .ofData f.2)

theorem ofOptions_savedOptions {c : Config} (nonneg : 0 ≤ c.pruneMassThreshold) :
    ofOptions c.savedOptions = .ok c :=
  ofOptions_eq_ok_iff.2 ⟨(choice_upAxis c.upAxis).1, rfl, rfl, asThreshold_real nonneg, rfl,
    (choice_collisionSource c.collisionSource).1, rfl, rfl,
    by simp [savedOptions, data, optionNames]⟩

theorem ofMapping_of_options {entries : List (Yaml.Value × Yaml.Value)} {options : Options}
    (given : optionsOf? entries = some options) :
    ofMapping (mappingOf entries) = ofOptions options := by
  unfold optionsOf? at given
  rw [ofMapping, given]

theorem optionsOf?_data (c : Config) :
    optionsOf? (Yaml.Value.ofData.ofFields c.data) = some c.savedOptions := rfl

open Yaml in
theorem isPlainField_data (c : Config) : ∀ f ∈ c.data, IsPlainField f := by
  have name : ∀ s ∈ optionNames, IsPlainText s ∧ IsKeyWord s.toList := by
    decide +kernel
  have source : IsPlainText c.collisionSource.name := by
    cases c.collisionSource <;> decide +kernel
  have upAxis : IsPlainText c.upAxis.name := by
    cases c.upAxis <;> decide +kernel
  have field {s : String} {d : Data} (known : s ∈ optionNames) (plain : IsPlainData d) :
      IsPlainField (s, d) :=
    ⟨(name s known).1, (name s known).2, plain⟩
  intro f h
  simp only [data, List.mem_cons, List.not_mem_nil, or_false] at h
  rcases h with rfl | rfl | rfl | rfl | rfl | rfl | rfl | rfl
  · exact field (by decide) (.text source)
  · exact field (by decide) (.truth _)
  · exact field (by decide) (.truth _)
  · exact field (by decide) (.real _)
  · exact field (by decide) (.truth _)
  · exact field (by decide) (.truth _)
  · exact field (by decide) (.truth _)
  · exact field (by decide) (.text upAxis)

theorem data_ne_nil (c : Config) : c.data ≠ [] := by
  simp [data]

theorem ofText_text {c : Config} (nonneg : 0 ≤ c.pruneMassThreshold) (path : String) :
    ofTextWith Yaml.read path c.text = .ok c := by
  have read := Yaml.read_text c.data_ne_nil c.isPlainField_data
  rw [ofTextWith, text, read]
  simp only [Yaml.Value.ofData, ofMapping_of_options c.optionsOf?_data,
    ofOptions_savedOptions nonneg]
  rfl

theorem ofFile_text {c : Config} (nonneg : 0 ≤ c.pruneMassThreshold) (path : String) :
    ofFile path (.ok c.text.toUTF8.toList) = .ok c := by
  have read : fileText path (.ok c.text.toUTF8.toList) = .ok c.text :=
    fileText_ascii path fun _ => Yaml.ascii_of_mem_text c.data_ne_nil c.isPlainField_data
  rw [ofFile, ofFileWith, read]
  exact ofText_text nonneg path

example : text { standard with pruneMassThreshold := 1e-7 } =
    "collision_source: engine-native\nimmovable_root: true\nprune: true\n" ++
    "prune_mass_threshold: 1.0e-07\nprune_require_no_mesh: true\nrename_root: true\n" ++
    "require_collision: false\nup_axis: y\n" := by decide +kernel

theorem follows_standard : Follows [] standard :=
  ⟨rfl, rfl, rfl, rfl, rfl, rfl, rfl, rfl, by simp⟩

/-- The options that a file holds; without a document, or with a null one, it holds none. -/
def Holds (path : String) (bytes : Except FileError (List UInt8)) (options : Options) : Prop :=
  ∃ text, fileText path bytes = .ok text ∧
    ((Yaml.read text.toList = .ok .null ∧ options = []) ∨
      ∃ entries, Yaml.read text.toList = .ok (.record entries) ∧ optionsOf? entries = some options)

theorem ofText_eq_ok_iff {path text : String} {c : Config} :
    ofTextWith Yaml.read path text = .ok c ↔ ∃ options, Follows options c ∧
      ((Yaml.read text.toList = .ok .null ∧ options = []) ∨
        ∃ entries, Yaml.read text.toList = .ok (.record entries) ∧
          optionsOf? entries = some options) := by
  constructor
  · intro accepted
    unfold ofTextWith at accepted
    split at accepted
    next => contradiction
    next null =>
      cases accepted
      exact ⟨[], follows_standard, .inl ⟨null, rfl⟩⟩
    next entries record =>
      cases given : optionsOf? entries with
      | none =>
        unfold optionsOf? at given
        simp [ofMapping, given, Except.mapError] at accepted
      | some options =>
        rw [ofMapping_of_options given] at accepted
        cases valid : ofOptions options with
        | error e => simp [valid, Except.mapError] at accepted
        | ok c' =>
          obtain rfl : c' = c := by simpa [valid, Except.mapError] using accepted
          exact ⟨options, ofOptions_eq_ok_iff.1 valid, .inr ⟨entries, record, given⟩⟩
    next => contradiction
  · rintro ⟨options, follows, ⟨null, rfl⟩ | ⟨entries, record, given⟩⟩
    · have same := ofOptions_eq_ok_iff.2 follows
      rw [ofOptions_eq_ok_iff.2 follows_standard] at same
      simp only [ofTextWith, null, Except.ok.inj same]
    · simp only [ofTextWith, record, ofMapping_of_options given, ofOptions_eq_ok_iff.2 follows,
        Except.mapError]

theorem ofFile_eq_ok_iff {path : String} {bytes : Except FileError (List UInt8)} {c : Config} :
    ofFile path bytes = .ok c ↔ ∃ options, Holds path bytes options ∧ Follows options c := by
  unfold ofFile ofFileWith Holds
  cases read : fileText path bytes with
  | error f => simp
  | ok text =>
    simp only [ofText_eq_ok_iff, Except.ok.injEq]
    constructor
    · rintro ⟨options, follows, holds⟩
      exact ⟨options, ⟨text, rfl, holds⟩, follows⟩
    · rintro ⟨options, ⟨_, rfl, holds⟩, follows⟩
      exact ⟨options, follows, holds⟩

theorem load_none (o : Overrides) : load none o = .ok (standard.override o) := by
  have merged := merge_eq follows_standard.nonneg o
  simp only [load, pure_bind, merged, Except.mapError]

theorem load_file {path : String} {bytes : Except FileError (List UInt8)} {base : Config}
    (accepted : ofFile path bytes = .ok base) (o : Overrides) :
    load (some (path, bytes)) o = .ok (base.override o) := by
  obtain ⟨options, -, follows⟩ := ofFile_eq_ok_iff.1 accepted
  have merged := merge_eq follows.nonneg o
  simp only [load, accepted, bind, Except.bind, merged, Except.mapError]

theorem nonneg_of_ofData {d : Data} {c : Config} (accepted : ofData d = .ok c) :
    0 ≤ c.pruneMassThreshold := by
  unfold ofData at accepted
  split at accepted
  · cases accepted
    exact follows_standard.nonneg
  · split at accepted
    · exact (ofOptions_eq_ok_iff.1 accepted).nonneg
    · contradiction

/-- A configuration that was made of any data or of any options is read back from the file that it
is saved to, and from its own options. With a file or without one, a compilation has what is set on
the command line; else what the file holds, else the default. -/
theorem reread_and_overridden :
    (∀ c, ((∃ d, ofData d = .ok c) ∨ ∃ options, ofOptions options = .ok c) →
      (∀ path, ofFile path (.ok c.text.toUTF8.toList) = .ok c) ∧ ofOptions c.dump = .ok c) ∧
    (∀ path bytes base, ofFile path bytes = .ok base →
      (∃ options, Holds path bytes options ∧ Follows options base) ∧
        ∀ o, load (some (path, bytes)) o = .ok (base.override o)) ∧
    ∀ o, load none o = .ok (standard.override o) := by
  refine ⟨fun c made => ?_, fun path bytes base accepted => ?_, load_none⟩
  · have nonneg : 0 ≤ c.pruneMassThreshold := by
      rcases made with ⟨d, accepted⟩ | ⟨options, accepted⟩
      · exact nonneg_of_ofData accepted
      · exact (ofOptions_eq_ok_iff.1 accepted).nonneg
    exact ⟨ofFile_text nonneg, ofOptions_dump nonneg⟩
  · exact ⟨ofFile_eq_ok_iff.1 accepted, load_file accepted⟩

/-- A configuration whose threshold is saved with an exponent. -/
def tiny : Config := { standard with upAxis := .z, pruneMassThreshold := 1e-300 }

theorem reread_and_overridden_tiny :
    ofOptions [("up_axis", .text " Z "), ("prune_mass_threshold", .real 1e-300)] = .ok tiny ∧
      ofFile "config.yaml" (.ok tiny.text.toUTF8.toList) = .ok tiny ∧
      ofOptions tiny.dump = .ok tiny ∧
      load (some ("config.yaml", .ok tiny.text.toUTF8.toList))
          ⟨none, some .externalDecomposition, some false⟩ =
        .ok { tiny with collisionSource := .externalDecomposition, prune := false } := by
  have upAxis : OptionValue.choice UpAxis.all UpAxis.name (.text " Z ") = .ok .z := by
    decide +kernel
  have made : ofOptions [("up_axis", .text " Z "), ("prune_mass_threshold", .real 1e-300)] =
      .ok tiny :=
    ofOptions_eq_ok_iff.2 ⟨upAxis, rfl, rfl, asThreshold_real (by decide +kernel), rfl, rfl, rfl,
      rfl, by decide⟩
  obtain ⟨read, again⟩ := reread_and_overridden.1 tiny (.inr ⟨_, made⟩)
  have loaded := (reread_and_overridden.2.1 "config.yaml" _ tiny (read _)).2
  exact ⟨made, read _, again, loaded _⟩

end Config

end Articulation
