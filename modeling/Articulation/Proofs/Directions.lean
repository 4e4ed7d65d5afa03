import Articulation.Proofs.Classification
import Articulation.Proofs.NumberArithmetic
/-!
The direction of a single axis: a component that is not zero is taken, and its sign. What is no
number is not zero and has no sign, so the laws that numbers obey fail just where such a component
is taken.
-/
set_option autoImplicit false

namespace Articulation

open Number

/-- The axis of a row is the one along which it has a component, in the direction of that. Other
lengths do not matter unless the component vanishes, and the opposite row has the opposite sign. -/
structure Directed (v : List Float) (joint : String) : Prop where
  selected : ∀ a s, resolveAxis (some v) joint = .ok (a, s) →
    (∃ c, component? v a = some c ∧ 0 < Float.ofInt s * c) ∧
    ∀ b ≠ a, ∀ c, component? v b = some c → (c == 0) = true
  scaled : ∀ a s k, resolveAxis (some v) joint = .ok (a, s) → 0 < k → k.isFinite = true →
    (∀ b c, component? v b = some c → (c * k == 0) = true → (c == 0) = true) →
    resolveAxis (some (v.map (· * k))) joint = .ok (a, s)
  reversed : ∀ a s, resolveAxis (some v) joint = .ok (a, s) →
    resolveAxis (some (v.map (-·))) joint = .ok (a, -s)
  undirected : (∀ a c, component? v a = some c → ¬0 < c ∧ ¬c < 0) →
    ∃ e, resolveAxis (some v) joint = .error e ∧ e.kind = .missingAxis

variable {v : List Float} {joint : String} {a : Axis} {c : Float} {s : Int}

theorem mem_zip_iff : (a, c) ∈ Axis.all.zip v ↔ component? v a = some c := by
  match v with
  | [] => cases a <;> simp [Axis.all, component?]
  | [_] => cases a <;> simp [Axis.all, component?, eq_comm]
  | [_, _] => cases a <;> simp [Axis.all, component?, eq_comm]
  | _ :: _ :: _ :: _ => cases a <;> simp [Axis.all, component?, eq_comm]

theorem mem_activeComponents_iff :
    (a, c) ∈ activeComponents v ↔ component? v a = some c ∧ (c == 0) = false := by
  have told : (c != 0) = true ↔ (c == 0) = false := Bool.not_eq_true' _ ▸ Iff.rfl
  rw [activeComponents, List.mem_filter, mem_zip_iff]
  exact and_congr_right fun _ => told

theorem resolveAxis_eq_ok_iff : resolveAxis (some v) joint = .ok (a, s) ↔
    ∃ c, activeComponents v = [(a, c)] ∧ s = if 0 < c then 1 else -1 := by
  unfold resolveAxis
  dsimp only
  split
  next none => simp [none]
  next b c one =>
    rw [one, Except.ok.injEq, Prod.mk.injEq]
    constructor
    · rintro ⟨rfl, rfl⟩
      exact ⟨c, rfl, rfl⟩
    · rintro ⟨d, same, rfl⟩
      cases same
      exact ⟨rfl, rfl⟩
  next none several =>
    constructor
    · intro h
      contradiction
    · rintro ⟨c, one, -⟩
      exact absurd one (several a c)

theorem kind_of_resolveAxis {e : DescriptionError} (h : resolveAxis (some v) joint = .error e) :
    e.kind = .missingAxis := by
  unfold resolveAxis at h
  dsimp only at h
  split at h
  · cases h
    rfl
  · contradiction
  · cases h
    rfl

theorem activeComponents_map {f : Float → Float}
    (same : ∀ b c, component? v b = some c → (f c == 0) = (c == 0)) :
    activeComponents (v.map f) = (activeComponents v).map fun (a, c) => (a, f c) := by
  have zipped : Axis.all.zip (v.map f) = (Axis.all.zip v).map fun (a, c) => (a, f c) :=
    List.zip_map_right ..
  rw [activeComponents, activeComponents, zipped, List.filter_map]
  congr 1
  refine List.filter_congr fun (b, c) here => ?_
  exact congrArg not (same b c (mem_zip_iff.1 here))

theorem selected_of_active (one : activeComponents v = [(a, c)]) :
    component? v a = some c ∧ (c == 0) = false :=
  mem_activeComponents_iff.1 (one ▸ List.mem_singleton_self (a, c))

theorem resolveAxis_map {f : Float → Float} {t : Int}
    (same : ∀ b c, component? v b = some c → (f c == 0) = (c == 0))
    (sign : ∀ c, activeComponents v = [(a, c)] → s = (if 0 < c then 1 else -1) →
      t = if 0 < f c then 1 else -1)
    (h : resolveAxis (some v) joint = .ok (a, s)) :
    resolveAxis (some (v.map f)) joint = .ok (a, t) := by
  obtain ⟨c, one, told⟩ := resolveAxis_eq_ok_iff.1 h
  refine resolveAxis_eq_ok_iff.2 ⟨f c, ?_, sign c one told⟩
  rw [activeComponents_map same, one]
  rfl

theorem ofInt_sign_mul (c : Float) :
    Float.ofInt (if 0 < c then 1 else -1) * c = if 0 < c then c else -c := by
  have unit : Float.ofInt 1 = 1 := by decide +kernel
  have back : Float.ofInt (-1) = -1 := by decide +kernel
  split
  · rw [unit, one_mul]
  · rw [back, neg_mul, one_mul]

section Numbers

variable (numbers : ∀ a c, activeComponents v = [(a, c)] → c.isNaN = false)

theorem others_zero (one : activeComponents v = [(a, c)]) {b : Axis} (other : b ≠ a) {d : Float}
    (beside : component? v b = some d) : (d == 0) = true := by
  by_contra active
  have listed := mem_activeComponents_iff.2 ⟨beside, Bool.eq_false_iff.2 active⟩
  rw [one, List.mem_singleton] at listed
  cases listed
  contradiction

include numbers

theorem selected_of_numbers (h : resolveAxis (some v) joint = .ok (a, s)) :
    ∃ c, component? v a = some c ∧ 0 < Float.ofInt s * c := by
  obtain ⟨c, one, rfl⟩ := resolveAxis_eq_ok_iff.1 h
  obtain ⟨given, nonzero⟩ := selected_of_active one
  refine ⟨c, given, ?_⟩
  rw [ofInt_sign_mul]
  split
  next positive => exact positive
  next negative => exact (not_pos_iff (numbers a c one) nonzero).1 negative

theorem scaled_of_numbers {k : Float} (positive : 0 < k)
    (keeps : ∀ b c, component? v b = some c → (c * k == 0) = (c == 0))
    (h : resolveAxis (some v) joint = .ok (a, s)) :
    resolveAxis (some (v.map (· * k))) joint = .ok (a, s) := by
  refine resolveAxis_map keeps (fun c one told => ?_) h
  obtain ⟨given, nonzero⟩ := selected_of_active one
  have left := (keeps a c given).trans nonzero
  rw [told, if_congr (pos_mul_iff (numbers a c one) nonzero positive left) rfl rfl]

theorem reversed_of_numbers (h : resolveAxis (some v) joint = .ok (a, s)) :
    resolveAxis (some (v.map (-·))) joint = .ok (a, -s) := by
  refine resolveAxis_map (fun _ c _ => neg_beq_zero c) (fun c one told => ?_) h
  have sign := not_pos_iff (numbers a c one) (selected_of_active one).2
  rw [told, ← if_congr sign rfl rfl, ite_not]
  split <;> rfl

theorem undirected_of_numbers (still : ∀ a c, component? v a = some c → ¬0 < c ∧ ¬c < 0) :
    ∃ e, resolveAxis (some v) joint = .error e ∧ e.kind = .missingAxis := by
  cases h : resolveAxis (some v) joint with
  | error e => exact ⟨e, rfl, kind_of_resolveAxis h⟩
  | ok found =>
    obtain ⟨c, one, -⟩ := resolveAxis_eq_ok_iff.1 h
    obtain ⟨given, nonzero⟩ := selected_of_active one
    obtain ⟨notAbove, notBelow⟩ := still _ c given
    rw [lt_zero_iff, ← not_pos_iff (numbers _ c one) nonzero] at notBelow
    exact absurd notAbove notBelow

end Numbers

/-- The laws hold of a row unless what is no number stands in it with nothing but zeros beside. -/
theorem directed_iff (v : List Float) (joint : String) :
    Directed v joint ↔ ∀ a c, activeComponents v = [(a, c)] → c.isNaN = false := by
  constructor
  · intro directed a c one
    obtain ⟨⟨d, given, direction⟩, -⟩ :=
      directed.selected a _ (resolveAxis_eq_ok_iff.2 ⟨c, one, rfl⟩)
    cases (selected_of_active one).1.symm.trans given
    rw [ofInt_sign_mul] at direction
    split at direction
    · exact isNaN_of_pos direction
    · exact isNaN_of_neg_pos direction
  · intro numbers
    constructor
    case selected =>
      intro a s h
      obtain ⟨c, one, -⟩ := resolveAxis_eq_ok_iff.1 h
      exact ⟨selected_of_numbers numbers h, fun b other d => others_zero one other⟩
    case scaled =>
      intro a s k h positive finite left
      -- a finite factor makes nothing of the zeros, as an infinite one would
      have keeps (b : Axis) (c : Float) (given : component? v b = some c) :
          (c * k == 0) = (c == 0) :=
        Bool.eq_iff_iff.2 ⟨left b c given, zero_mul finite⟩
      exact scaled_of_numbers numbers positive keeps h
    case reversed => exact fun a s => reversed_of_numbers numbers
    case undirected => exact undirected_of_numbers numbers

/-- The axis is x, against its direction, for a component that has none. -/
theorem not_directed_unsigned : resolveAxis (some [0.0 / 0.0, 0, 0]) "j" = .ok (.x, -1) ∧
    (∀ a c, component? [0.0 / 0.0, 0, 0] a = some c → ¬0 < c ∧ ¬c < 0) ∧
    ¬Directed [0.0 / 0.0, 0, 0] "j" := by
  have still : ∀ a c, component? [0.0 / 0.0, 0, 0] a = some c → ¬0 < c ∧ ¬c < 0 := by
    intro a c given
    cases a <;> cases given <;> decide +kernel
  have resolved : resolveAxis (some [0.0 / 0.0, 0, 0]) "j" = .ok (.x, -1) := by
    refine resolveAxis_eq_ok_iff.2 ⟨0.0 / 0.0, ?_, (if_neg (still .x _ rfl).1).symm⟩
    have active : ((0.0 / 0.0 : Float) != 0) = true := by decide +kernel
    have bare : ((0 : Float) != 0) = false := by decide +kernel
    simp [activeComponents, Axis.all, active, bare]
  refine ⟨resolved, still, fun directed => ?_⟩
  obtain ⟨e, refused, -⟩ := directed.undirected still
  rw [resolved] at refused
  contradiction

end Articulation
