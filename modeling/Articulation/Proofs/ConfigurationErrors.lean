import Mathlib.Data.List.Basic
import Articulation.CommandLine.Run
/-!
How options are refused. Whatever reads the streams, options are refused with errors of values,
unless a key of theirs is no text; what else ends the reading is passed on. The commands report
errors of values; they end unhandled with the others.
-/
set_option autoImplicit false

namespace Articulation

/-- What fails, fails with the error of a value. -/
def OnlyValueErrors {ε α : Type} (classOf : ε → ErrorClass) (x : Except ε α) : Prop :=
  ∀ e, x = .error e → classOf e = .value

instance {ε α : Type} (classOf : ε → ErrorClass) :
    (x : Except ε α) → Decidable (OnlyValueErrors classOf x)
  | .error e => decidable_of_iff (classOf e = .value) (by simp [OnlyValueErrors])
  | .ok _ => .isTrue (by simp [OnlyValueErrors])

namespace OnlyValueErrors

variable {ε α : Type} {classOf : ε → ErrorClass}

@[simp]
theorem ok {a : α} : OnlyValueErrors classOf (.ok a) := by
  simp [OnlyValueErrors]

@[simp]
theorem error_iff {e : ε} :
    OnlyValueErrors classOf (.error e : Except ε α) ↔ classOf e = .value := by
  simp [OnlyValueErrors]

theorem mapError_iff {ε' : Type} {g : ε' → ε} {x : Except ε' α} :
    OnlyValueErrors classOf (x.mapError g) ↔ OnlyValueErrors (fun e => classOf (g e)) x := by
  cases x <;> simp [Except.mapError]

end OnlyValueErrors

namespace Config

theorem onlyValueErrors_ofOptions (options : Options) :
    OnlyValueErrors ConfigError.errorClass (ofOptions options) := by
  unfold ofOptions
  dsimp only
  split
  · exact .ok
  · exact OnlyValueErrors.error_iff.2 rfl

theorem onlyValueErrors_ofData (fields : List (String × Data)) :
    OnlyValueErrors ConfigError.errorClass (ofData (.record fields)) := by
  unfold ofData
  split
  · exact .ok
  · exact onlyValueErrors_ofOptions _

theorem givenOptions?_eq_none_iff {m : Mapping} :
    givenOptions? m = none ↔ ∃ e ∈ m, e.1 = none := by
  rw [givenOptions?, Option.map_eq_none_iff]
  induction m with
  | nil => simp
  | cons e m ih =>
    rw [List.mapM_cons, List.exists_mem_cons_iff, ← ih]
    obtain ⟨name?, v⟩ := e
    cases name? with
    | none => simp [givenOption?]
    | some name => simpa [givenOption?] using Option.eq_none_iff_forall_ne_some.symm

/-- A mapping is refused because of a key that is no text, or it gives options. -/
theorem ofMapping_cases (m : Mapping) :
    ((∃ e ∈ m, e.1 = none) ∧ ofMapping m = .error .nameNotText) ∨
      (∀ e ∈ m, e.1.isSome) ∧ ∃ options, ofMapping m = ofOptions options := by
  cases given : givenOptions? m with
  | none => exact .inl ⟨givenOptions?_eq_none_iff.1 given, by rw [ofMapping, given]⟩
  | some options =>
    refine .inr ⟨fun e mem => Option.isSome_iff_ne_none.2 fun noText => ?_, options, by
      rw [ofMapping, given]⟩
    simp [givenOptions?_eq_none_iff.2 ⟨e, mem, noText⟩] at given

theorem onlyValueErrors_ofMapping_iff {m : Mapping} :
    OnlyValueErrors ConfigError.errorClass (ofMapping m) ↔ ∀ e ∈ m, e.1.isSome := by
  rcases ofMapping_cases m with ⟨⟨e, mem, noText⟩, refused⟩ | ⟨named, options, same⟩
  · rw [refused]
    refine iff_of_false (by simp [ConfigError.errorClass]) fun named => ?_
    simpa [noText] using named e mem
  · rw [same]
    exact iff_of_true (onlyValueErrors_ofOptions options) named

/-- A mapping with a key that is no text. -/
def HasOtherKey (stream : Except Yaml.Failure Yaml.Value) : Prop :=
  ∃ entries, stream = .ok (.record entries) ∧ ∃ e ∈ mappingOf entries, e.1 = none

theorem onlyValueErrors_ofTextWith_iff {read : Yaml.Reader} {path text : String} :
    OnlyValueErrors ConfigFailure.errorClass (ofTextWith read path text) ↔
      OnlyValueErrors Yaml.Failure.errorClass (read text.toList) ∧
        ¬HasOtherKey (read text.toList) := by
  unfold ofTextWith
  cases read text.toList with
  | error cause => simp [ConfigFailure.errorClass, HasOtherKey]
  | ok v =>
    cases v with
    | record entries =>
      have refused : OnlyValueErrors ConfigFailure.errorClass
          ((ofMapping (mappingOf entries)).mapError .options) ↔
            ∀ e ∈ mappingOf entries, e.1.isSome :=
        OnlyValueErrors.mapError_iff.trans onlyValueErrors_ofMapping_iff
      have otherKey : HasOtherKey (.ok (.record entries)) ↔
          ∃ e ∈ mappingOf entries, e.1 = none := by simp [HasOtherKey]
      simp only [refused, otherKey, OnlyValueErrors.ok, true_and, not_exists, not_and,
        Option.isSome_iff_ne_none, ne_eq]
    | null => simp [HasOtherKey]
    | _ => simp [ConfigFailure.errorClass, HasOtherKey]

theorem errorClass_of_ofTextWith {read : Yaml.Reader} {path text : String} {f : ConfigFailure}
    (refused : ofTextWith read path text = .error f) (other : f.errorClass ≠ .value) :
    (∃ cause, read text.toList = .error cause ∧ f = .stream cause path) ∨
      HasOtherKey (read text.toList) ∧ f.errorClass = .type := by
  unfold ofTextWith at refused
  cases stream : read text.toList with
  | error cause =>
    simp only [stream, Except.error.injEq] at refused
    exact .inl ⟨cause, rfl, refused.symm⟩
  | ok v =>
    refine .inr ?_
    cases v with
    | record entries =>
      simp only [stream] at refused
      rcases ofMapping_cases (mappingOf entries) with ⟨otherKey, nameNotText⟩ | ⟨-, options, same⟩
      · rw [nameNotText] at refused
        cases refused
        exact ⟨⟨entries, rfl, otherKey⟩, rfl⟩
      · have usual : OnlyValueErrors ConfigFailure.errorClass
            ((ofMapping (mappingOf entries)).mapError .options) :=
          OnlyValueErrors.mapError_iff.2 (same ▸ onlyValueErrors_ofOptions options)
        exact absurd (usual f refused) other
    | null => simp [stream] at refused
    | _ =>
      simp only [stream, Except.error.injEq] at refused
      cases refused
      exact absurd rfl other

/-- Whatever reads the stream of a file that is a text: what it holds is accepted or refused with
the error of a value, unless the reader fails with another error, which is passed on, or a key is no
text. Options that are given as a mapping are accepted or refused with the error of a value if all
keys are texts, whatever the options are. -/
theorem onlyValueErrors_iff (read : Yaml.Reader) {path text : String}
    {bytes : Except FileError (List UInt8)} (readable : fileText path bytes = .ok text)
    (m : Mapping) (fields : List (String × Data)) :
    (OnlyValueErrors ConfigFailure.errorClass (ofFileWith read path bytes) ↔
      OnlyValueErrors Yaml.Failure.errorClass (read text.toList) ∧
        ¬HasOtherKey (read text.toList)) ∧
    (∀ f, ofFileWith read path bytes = .error f → f.errorClass ≠ .value →
      (∃ cause, read text.toList = .error cause ∧ f = .stream cause path) ∨
        HasOtherKey (read text.toList) ∧ f.errorClass = .type) ∧
    (OnlyValueErrors ConfigError.errorClass (ofMapping m) ↔ ∀ e ∈ m, e.1.isSome) ∧
    OnlyValueErrors ConfigError.errorClass (ofData (.record fields)) := by
  have same : ofFileWith read path bytes = ofTextWith read path text := by
    rw [ofFileWith, readable]
  rw [same]
  exact ⟨onlyValueErrors_ofTextWith_iff, fun _ => errorClass_of_ofTextWith,
    onlyValueErrors_ofMapping_iff, onlyValueErrors_ofData fields⟩

def bytesOf (s : String) : Except FileError (List UInt8) := .ok s.toUTF8.toList

theorem onlyValueErrors_iff_read :
    (¬OnlyValueErrors ConfigFailure.errorClass (ofFileWith Yaml.read "c" (bytesOf "1: y\n")) ∧
      OnlyValueErrors Yaml.Failure.errorClass (Yaml.read "1: y\n".toList) ∧
      HasOtherKey (Yaml.read "1: y\n".toList)) ∧
    OnlyValueErrors Yaml.Failure.errorClass (Yaml.read "prune: 3\n".toList) ∧
      ¬HasOtherKey (Yaml.read "prune: 3\n".toList) := by
  have number : fileText "c" (bytesOf "1: y\n") = .ok "1: y\n" := by decide +kernel
  have refused : ¬OnlyValueErrors ConfigFailure.errorClass
      (ofFileWith Yaml.read "c" (bytesOf "1: y\n")) := by decide +kernel
  have stream : OnlyValueErrors Yaml.Failure.errorClass (Yaml.read "1: y\n".toList) := by
    decide +kernel
  have wrong : fileText "c" (bytesOf "prune: 3\n") = .ok "prune: 3\n" := by decide +kernel
  have usual : OnlyValueErrors ConfigFailure.errorClass
      (ofFileWith Yaml.read "c" (bytesOf "prune: 3\n")) := by decide +kernel
  have otherKey : HasOtherKey (Yaml.read "1: y\n".toList) := not_not.1 fun named =>
    refused ((onlyValueErrors_iff Yaml.read number [] []).1.2 ⟨stream, named⟩)
  exact ⟨⟨refused, stream, otherKey⟩, (onlyValueErrors_iff Yaml.read wrong [] []).1.1 usual⟩

/-- A key that is a number, and scalars that do not fit their tags. -/
theorem not_onlyValueErrors :
    (∀ s ∈ ["1: y\n", "up_axis: !!bool maybe\n", "prune: !!int ''\n", "prune: !!timestamp x\n",
        "prune: !!timestamp \x7b=: 2001-01-01\x7d\n", "up_axis: \"\\UFFFFFFFF\"\n"],
      fileText "config.yaml" (bytesOf s) = .ok s ∧
        ¬OnlyValueErrors ConfigFailure.errorClass (ofFile "config.yaml" (bytesOf s))) ∧
    ¬OnlyValueErrors ConfigError.errorClass (ofMapping [(none, .text "y")]) := by
  decide +kernel

end Config

theorem ConfigFailure.message?_isSome_iff {f : ConfigFailure} (contents : ∀ g, f ≠ .file g) :
    f.message?.isSome ↔ f.errorClass = .value := by
  cases f with
  | file g => exact absurd rfl (contents g)
  | stream cause path =>
    cases cause with
    | noSuchCharacter number =>
      by_cases small : number < 0x80000000 <;>
        simp [message?, errorClass, Yaml.Failure.message?, Yaml.Failure.errorClass, small]
    | _ => simp [message?, errorClass, Yaml.Failure.message?, Yaml.Failure.errorClass]
  | notARecord path => simp [message?, errorClass]
  | options cause => cases cause <;> simp [message?, errorClass, ConfigError.errorClass]

namespace CommandLine

/-- The commands report errors of values and end unhandled with others. -/
theorem configOutcome_contents {f : ConfigFailure} (contents : ∀ g, f ≠ .file g) :
    (f.errorClass = .value → ∃ message, f.message? = some message ∧
      configOutcome f = reported configurationTitle message []) ∧
    (f.errorClass ≠ .value → configOutcome f = .unhandled (.config f) []) := by
  rw [← ConfigFailure.message?_isSome_iff contents, ne_eq,
    ← ConfigFailure.message?_isSome_iff contents]
  unfold configOutcome
  generalize f.message? = said
  cases said with
  | none =>
    refine ⟨fun some => by contradiction, fun _ => ?_⟩
    split
    · exact absurd rfl (contents _)
    · exact absurd rfl (contents _)
    · contradiction
    · rfl
  | some message =>
    refine ⟨fun _ => ⟨message, rfl, ?_⟩, fun none => absurd rfl none⟩
    split
    · exact absurd rfl (contents _)
    · exact absurd rfl (contents _)
    next same => rw [Option.some.inj same]
    · contradiction

end CommandLine

end Articulation
