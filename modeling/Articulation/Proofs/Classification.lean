import Articulation.Joint.Classify
import Articulation.Robot.Data
import Mathlib.Data.List.Nodup
/-!
Which joint records stand for joints. A record has requirements to meet that depend on its type, and
it is refused for the first that it does not meet; a record that meets all of them has its drives,
limits and locks resolved as its type demands, and so does the data that is saved of it.
-/
set_option autoImplicit false

namespace Articulation

namespace JointType

def hasAxis : JointType → Bool
  | continuous | revolute | prismatic => true
  | fixed | floating => false

def isLimited : JointType → Bool
  | revolute | prismatic => true
  | fixed | continuous | floating => false

end JointType

def component? (v : List Float) : Axis → Option Float
  | .x => v[0]?
  | .y => v[1]?
  | .z => v[2]?

inductive Requirement where
  | typeGiven | typeSupported | oneAxis | limitGiven | velocityGiven
  deriving DecidableEq, Repr

/-- In the order in which they are looked at. -/
def Requirement.all : List Requirement :=
  [.typeGiven, .typeSupported, .oneAxis, .limitGiven, .velocityGiven]

namespace Data

def get? : Data → String → Option Data
  | record fields, key => fields.lookup key
  | _, _ => none

/-- What is saved of a joint of that type with those drive axes. -/
structure Specifies (spec : Data) (t : JointType) (axes : List Axis) : Prop where
  type : spec.get? "type" = some (.text t.name)
  limited : spec.get? "has_limits" = some (.truth t.isLimited)
  numbers : ∀ key ∈ ["lower_limit", "upper_limit", "velocity_limit"],
    ∃ x, spec.get? key = some (.real x)
  drives : ∃ ds, spec.get? "drives" = some (.list ds) ∧
    ds.map (·.get? "axis") = axes.map (fun a => some (.text a.name)) ∧
    ∀ d ∈ ds, d.get? "force_limit" = spec.get? "velocity_limit" ∧
      ∀ key ∈ ["lower_limit", "upper_limit"],
        d.get? key = if t.isLimited then spec.get? key else some .null
  locks : if t = .prismatic then
      ∃ locks, spec.get? "linear_locks" = some locks ∧ ∀ a, locks.get? a.name =
        some (.text (if a ∈ axes then Freedom.limited else Freedom.locked).name)
    else spec.get? "linear_locks" = some .null
  sign : ∃ s, spec.get? "axis_sign" = some (.integer s) ∧ (s ≠ 0 ↔ t.hasAxis = true)

end Data

theorem Axis.mem_all (a : Axis) : a ∈ all := by cases a <;> decide

theorem LinearLocks.get?_data (locks : LinearLocks) (a : Axis) :
    locks.data.get? a.name = some (.text (locks.along a).name) := by
  cases a <;> rfl

namespace JointRecord

def HasType (r : JointRecord) (t : JointType) : Prop :=
  ∃ text, r.type = some text ∧ Text.lower (Text.trim text.toList) = t.name.toList

/-- A component that is no number compares unequal to zero. -/
def pointsAlong (r : JointRecord) (a : Axis) : Bool :=
  (r.axis.bind fun v => component? v a).any (· != 0)

/-- Each requirement stands for itself, whether or not the others are met. -/
def Meets (r : JointRecord) : Requirement → Prop
  | .typeGiven => r.type ≠ none ∧ r.type ≠ some ""
  | .typeSupported => ∃ t, r.HasType t
  | .oneAxis => ∀ t, r.HasType t → t.hasAxis = true → ∃! a, r.pointsAlong a = true
  | .limitGiven => ∀ t, r.HasType t → t.isLimited = true → r.limit ≠ none
  | .velocityGiven =>
    ∀ t, r.HasType t → t.isLimited = true → ∀ l, r.limit = some l → l.velocity ≠ none

def complaint (r : JointRecord) : Requirement → DescriptionError
  | .typeGiven => .missingJointType r.name
  | .typeSupported => .unsupportedJointType (r.type.getD "") r.name
  | .oneAxis =>
    if Axis.all.any r.pointsAlong then .compoundAxis (r.axis.getD []) r.name
    else .missingAxis r.name
  | .limitGiven => .missingLimit r.name
  | .velocityGiven => .missingVelocity r.name

open Classical in
noncomputable def firstUnmet (r : JointRecord) : Option Requirement :=
  Requirement.all.find? fun q => ¬r.Meets q

/-- What a joint looks like whose record has that type. -/
structure Resolved (r : JointRecord) (t : JointType) (j : Joint) : Prop where
  record : j.name = r.name ∧ j.parent = r.parent ∧ j.child = r.child ∧ j.origin = r.origin
  type : j.type = t
  axes : match t with
    | .fixed => j.driveAxes = []
    | .floating => j.driveAxes = [.x, .y, .z]
    | .continuous | .revolute | .prismatic => ∃ a, r.pointsAlong a = true ∧ j.driveAxes = [a]
  limited : j.limits.isSome = t.isLimited
  limits : ∀ l, j.limits = some l → r.limit = some ⟨l.lower, l.upper, some l.velocity⟩ ∧
    j.velocityLimit = l.velocity
  force : ∀ d ∈ j.drives, d.forceLimit = j.velocityLimit
  drive_limits : ∀ d ∈ j.drives, d.limits = j.limits
  locks : j.linearLocks.isSome = true ↔ t = .prismatic
  locked : ∀ locks, j.linearLocks = some locks → ∀ d ∈ j.drives, ∀ a,
    locks.along a = if d.axis = a then .limited else .locked
  sign : j.axisSign ≠ 0 ↔ t.hasAxis = true

variable {r : JointRecord} {t : JointType} {j : Joint}

theorem ofName?_eq_some {s : String} : JointType.ofName? s = some t ↔ s = t.name := by
  constructor
  · intro h
    have same := List.find?_some h
    exact (eq_of_beq same).symm
  · rintro rfl
    exact JointType.ofName?_name t

theorem HasType.unique {t' : JointType} (h : r.HasType t) (h' : r.HasType t') : t = t' := by
  obtain ⟨text, given, same⟩ := h
  obtain ⟨text', given', same'⟩ := h'
  obtain rfl : text = text' := Option.some.inj (given.symm.trans given')
  have names : t.name = t'.name := String.toList_inj.1 (same.symm.trans same')
  have read := JointType.ofName?_name t
  rw [names, JointType.ofName?_name] at read
  exact (Option.some.inj read).symm

theorem type_outcome (r : JointRecord) :
    (∃ t, r.HasType t ∧ r.Meets .typeGiven ∧ JointType.read r.type r.name = .ok t) ∨
    (¬r.Meets .typeGiven ∧ JointType.read r.type r.name = .error (r.complaint .typeGiven)) ∨
    (r.Meets .typeGiven ∧ ¬r.Meets .typeSupported ∧
      JointType.read r.type r.name = .error (r.complaint .typeSupported)) := by
  unfold JointType.read
  split
  next absent => exact .inr (.inl ⟨fun given => given.1 absent, rfl⟩)
  next empty => exact .inr (.inl ⟨fun given => given.2 empty, rfl⟩)
  next text nonempty given =>
    have meets : r.Meets .typeGiven := by
      refine ⟨by simp [given], fun empty => nonempty ?_⟩
      rw [given] at empty
      exact Option.some.inj empty
    have named (t : JointType) : r.HasType t ↔
        JointType.ofName? (String.ofList (Text.lower (Text.trim text.toList))) = some t := by
      rw [ofName?_eq_some]
      constructor
      · rintro ⟨text', given', same⟩
        obtain rfl : text = text' := Option.some.inj (given.symm.trans given')
        rw [same, String.ofList_toList]
      · intro same
        exact ⟨text, given, by rw [← same, String.toList_ofList]⟩
    split
    next t found => exact .inl ⟨t, (named t).2 found, meets, rfl⟩
    next unknown =>
      refine .inr (.inr ⟨meets, ?_, ?_⟩)
      · rintro ⟨t, typed⟩
        rw [(named t).1 typed] at unknown
        contradiction
      · rw [complaint, given]
        rfl

theorem map_fst_activeComponents (v : List Float) :
    (activeComponents v).map Prod.fst =
      Axis.all.filter fun a => (component? v a).any (· != 0) := by
  unfold activeComponents Axis.all
  match v with
  | [] => rfl
  | [x] => cases h : x != 0 <;> simp [component?, h]
  | [x, y] => cases h : x != 0 <;> cases h' : y != 0 <;> simp [component?, h, h']
  | x :: y :: z :: _ =>
    cases h : x != 0 <;> cases h' : y != 0 <;> cases h'' : z != 0 <;>
      simp [component?, h, h', h'']

theorem mem_activeComponents {v : List Float} (given : r.axis = some v) (a : Axis) :
    a ∈ (activeComponents v).map Prod.fst ↔ r.pointsAlong a = true := by
  rw [map_fst_activeComponents, List.mem_filter, and_iff_right (Axis.mem_all a), pointsAlong, given]
  rfl

theorem any_pointsAlong : Axis.all.any r.pointsAlong = true ↔ ∃ a, r.pointsAlong a = true := by
  rw [List.any_eq_true]
  exact ⟨fun ⟨a, _, h⟩ => ⟨a, h⟩, fun ⟨a, h⟩ => ⟨a, Axis.mem_all a, h⟩⟩

theorem axis_outcome (r : JointRecord) :
    (∃ a s, (∀ b, r.pointsAlong b = true ↔ b = a) ∧ s ≠ 0 ∧
      resolveAxis r.axis r.name = .ok (a, s)) ∨
    ((¬∃! a, r.pointsAlong a = true) ∧
      resolveAxis r.axis r.name = .error (r.complaint .oneAxis)) := by
  have missing (none_active : ∀ a, r.pointsAlong a = false) :
      (¬∃! a, r.pointsAlong a = true) ∧
        DescriptionError.missingAxis r.name = r.complaint .oneAxis := by
    refine ⟨fun ⟨a, active, _⟩ => by simp [none_active] at active, ?_⟩
    rw [complaint, if_neg]
    rw [any_pointsAlong]
    rintro ⟨a, active⟩
    simp [none_active] at active
  unfold resolveAxis
  split
  next absent =>
    obtain ⟨none_unique, error⟩ := missing fun a => by simp [pointsAlong, absent]
    exact .inr ⟨none_unique, congrArg _ error⟩
  next v given =>
    have active := mem_activeComponents given
    have distinct : ((activeComponents v).map Prod.fst).Nodup := by
      rw [map_fst_activeComponents]
      exact List.Nodup.filter _ (by decide)
    split
    next empty =>
      obtain ⟨none_unique, error⟩ := missing fun a => by simpa [empty] using (active a).symm
      exact .inr ⟨none_unique, congrArg _ error⟩
    next a c single =>
      refine .inl ⟨a, _, fun b => ?_, ?_, rfl⟩
      · rw [← active b, single]
        simp
      · split <;> decide
    next components not_empty not_single =>
      -- what is left has two components at least, on different axes
      obtain ⟨a, b, others, several⟩ : ∃ a b others,
          (activeComponents v).map Prod.fst = a :: b :: others := by
        match h : activeComponents v with
        | [] => exact absurd h not_empty
        | [(a, c)] => exact absurd h (not_single a c)
        | (a, _) :: (b, _) :: others => exact ⟨a, b, _, rfl⟩
      rw [several] at distinct
      have first : r.pointsAlong a = true := (active a).1 (by simp [several])
      have second : r.pointsAlong b = true := (active b).1 (by simp [several])
      refine .inr ⟨fun unique => ?_, ?_⟩
      · have same : a = b := unique.unique first second
        simp [same] at distinct
      · rw [complaint, if_pos (any_pointsAlong.2 ⟨a, first⟩), given]
        rfl

theorem limits_outcome (r : JointRecord) :
    (∃ l v, r.limit = some l ∧ l.velocity = some v ∧
      r.requiredLimits = .ok ⟨l.lower, l.upper, v⟩) ∨
    (r.limit = none ∧ r.requiredLimits = .error (r.complaint .limitGiven)) ∨
    (∃ l, r.limit = some l ∧ l.velocity = none ∧
      r.requiredLimits = .error (r.complaint .velocityGiven)) := by
  unfold requiredLimits
  split
  next absent => exact .inr (.inl ⟨absent, rfl⟩)
  next lower upper given => exact .inr (.inr ⟨_, given, rfl, rfl⟩)
  next lower upper v given => exact .inl ⟨_, v, given, rfl, rfl⟩

theorem Resolved.fixed (r : JointRecord) : r.Resolved .fixed (r.undriven .fixed) where
  record := ⟨rfl, rfl, rfl, rfl⟩
  type := rfl
  axes := rfl
  limited := rfl
  limits _ h := by contradiction
  force _ h := by contradiction
  drive_limits _ h := by contradiction
  locks := by simp [undriven, Joint.undriven]
  locked _ h := by contradiction
  sign := by simp [undriven, Joint.undriven, JointType.hasAxis]

theorem Resolved.floating (r : JointRecord) :
    r.Resolved .floating { r.undriven .floating with
      drives := Axis.all.map fun axis => ⟨axis, defaultVelocityLimit, none⟩
      velocityLimit := defaultVelocityLimit } where
  record := ⟨rfl, rfl, rfl, rfl⟩
  type := rfl
  axes := rfl
  limited := rfl
  limits _ h := by contradiction
  force := List.forall_mem_map.2 fun _ _ => rfl
  drive_limits := List.forall_mem_map.2 fun _ _ => rfl
  locks := by simp [undriven, Joint.undriven]
  locked _ h := by contradiction
  sign := by simp [undriven, Joint.undriven, JointType.hasAxis]

theorem Resolved.continuous {a : Axis} {s : Int} (points : r.pointsAlong a = true) (sign : s ≠ 0) :
    r.Resolved .continuous { r.undriven .continuous with
      drives := [⟨a, defaultVelocityLimit, none⟩]
      velocityLimit := defaultVelocityLimit
      axisSign := s } where
  record := ⟨rfl, rfl, rfl, rfl⟩
  type := rfl
  axes := ⟨a, points, rfl⟩
  limited := rfl
  limits _ h := by contradiction
  force := List.forall_mem_singleton.2 rfl
  drive_limits := List.forall_mem_singleton.2 rfl
  locks := by simp [undriven, Joint.undriven]
  locked _ h := by contradiction
  sign := iff_of_true sign rfl

theorem Resolved.limitedBy {a : Axis} {s : Int} {l : Limits} {locks : Option LinearLocks}
    (points : r.pointsAlong a = true) (sign : s ≠ 0)
    (given : r.limit = some ⟨l.lower, l.upper, some l.velocity⟩)
    (kind : t = .revolute ∧ locks = none ∨ t = .prismatic ∧ locks = some (.sliding a)) :
    r.Resolved t { r.undriven t with
      drives := [⟨a, l.velocity, some l⟩]
      limits := some l
      velocityLimit := l.velocity
      linearLocks := locks
      axisSign := s } where
  record := ⟨rfl, rfl, rfl, rfl⟩
  type := rfl
  axes := by rcases kind with ⟨rfl, -⟩ | ⟨rfl, -⟩ <;> exact ⟨a, points, rfl⟩
  limited := by rcases kind with ⟨rfl, -⟩ | ⟨rfl, -⟩ <;> rfl
  limits _ h := by
    cases h
    exact ⟨given, rfl⟩
  force := List.forall_mem_singleton.2 rfl
  drive_limits := List.forall_mem_singleton.2 rfl
  locks := by rcases kind with ⟨rfl, rfl⟩ | ⟨rfl, rfl⟩ <;> simp
  locked locks' h := by
    rcases kind with ⟨-, rfl⟩ | ⟨-, rfl⟩
    · contradiction
    · cases h
      exact List.forall_mem_singleton.2 (LinearLocks.along_sliding a)
  sign := iff_of_true sign (by rcases kind with ⟨rfl, -⟩ | ⟨rfl, -⟩ <;> rfl)

theorem meets_oneAxis_iff (typed : r.HasType t) :
    r.Meets .oneAxis ↔ (t.hasAxis = true → ∃! a, r.pointsAlong a = true) := by
  constructor
  · exact fun met => met t typed
  · intro met t' typed'
    rwa [← typed.unique typed']

theorem meets_limitGiven_iff (typed : r.HasType t) :
    r.Meets .limitGiven ↔ (t.isLimited = true → r.limit ≠ none) := by
  constructor
  · exact fun met => met t typed
  · intro met t' typed'
    rwa [← typed.unique typed']

theorem meets_velocityGiven_iff (typed : r.HasType t) :
    r.Meets .velocityGiven ↔
      (t.isLimited = true → ∀ l, r.limit = some l → l.velocity ≠ none) := by
  constructor
  · exact fun met => met t typed
  · intro met t' typed'
    rwa [← typed.unique typed']

/-- A record whose type is known meets the other requirements, or fails for the first of them. -/
inductive Outcome (r : JointRecord) (t : JointType) : Except DescriptionError Joint → Prop where
  | resolved {j : Joint} (axis : r.Meets .oneAxis) (limit : r.Meets .limitGiven)
      (velocity : r.Meets .velocityGiven) (joint : r.Resolved t j) : Outcome r t (.ok j)
  | noAxis (axis : ¬r.Meets .oneAxis) : Outcome r t (.error (r.complaint .oneAxis))
  | noLimit (axis : r.Meets .oneAxis) (limit : ¬r.Meets .limitGiven) :
      Outcome r t (.error (r.complaint .limitGiven))
  | noVelocity (axis : r.Meets .oneAxis) (limit : r.Meets .limitGiven)
      (velocity : ¬r.Meets .velocityGiven) : Outcome r t (.error (r.complaint .velocityGiven))

theorem Outcome.unlimited (typed : r.HasType t) (free : t.isLimited = false)
    (axis : r.Meets .oneAxis) (joint : r.Resolved t j) : Outcome r t (.ok j) := by
  refine .resolved axis ?_ ?_ joint
  · rw [meets_limitGiven_iff typed, free]
    exact fun h => by contradiction
  · rw [meets_velocityGiven_iff typed, free]
    exact fun h => by contradiction

theorem outcome_limitedJoint (typed : r.HasType t) (locks : Axis → Option LinearLocks)
    (kind : ∀ a, t = .revolute ∧ locks a = none ∨ t = .prismatic ∧ locks a = some (.sliding a)) :
    Outcome r t (r.limitedJoint t locks) := by
  have traits : t.hasAxis = true ∧ t.isLimited = true := by
    rcases kind .x with ⟨rfl, -⟩ | ⟨rfl, -⟩ <;> exact ⟨rfl, rfl⟩
  obtain ⟨hasAxis, isLimited⟩ := traits
  have limit := meets_limitGiven_iff typed
  have velocity := meets_velocityGiven_iff typed
  simp only [isLimited, true_imp_iff] at limit velocity
  unfold limitedJoint
  rcases axis_outcome r with ⟨a, s, only, sign, axis⟩ | ⟨several, axis⟩
  · have met : r.Meets .oneAxis :=
      (meets_oneAxis_iff typed).2 fun _ => ⟨a, (only a).2 rfl, fun b hb => (only b).1 hb⟩
    rw [axis, ok_bind]
    rcases limits_outcome r with ⟨l, v, given, turning, limits⟩ | ⟨absent, limits⟩ |
      ⟨l, given, still, limits⟩
    · simp only [limits, ok_bind]
      have full : r.limit = some ⟨l.lower, l.upper, some v⟩ := by rw [given, ← turning]
      have joint := Resolved.limitedBy (l := ⟨l.lower, l.upper, v⟩) ((only a).2 rfl) sign full (kind a)
      refine .resolved met ?_ ?_ joint
      · simp [limit, given]
      · simp [velocity, given, turning]
    · simp only [limits, error_bind]
      exact .noLimit met (by simp [limit, absent])
    · simp only [limits, error_bind]
      refine .noVelocity met ?_ ?_
      · simp [limit, given]
      · simp [velocity, given, still]
  · rw [axis, error_bind]
    exact .noAxis fun met => several ((meets_oneAxis_iff typed).1 met hasAxis)

theorem outcome_resolve (typed : r.HasType t) : Outcome r t (r.resolve t) := by
  cases t with
  | fixed =>
    refine .unlimited typed rfl ((meets_oneAxis_iff typed).2 fun h => ?_) (.fixed r)
    contradiction
  | floating =>
    refine .unlimited typed rfl ((meets_oneAxis_iff typed).2 fun h => ?_) (.floating r)
    contradiction
  | continuous =>
    unfold resolve
    rcases axis_outcome r with ⟨a, s, only, sign, axis⟩ | ⟨several, axis⟩
    · rw [axis, ok_bind]
      have unique : ∃! a, r.pointsAlong a = true := ⟨a, (only a).2 rfl, fun b hb => (only b).1 hb⟩
      exact .unlimited typed rfl ((meets_oneAxis_iff typed).2 fun _ => unique)
        (.continuous ((only a).2 rfl) sign)
    · rw [axis, error_bind]
      exact .noAxis fun met => several ((meets_oneAxis_iff typed).1 met rfl)
  | revolute => exact outcome_limitedJoint typed _ fun _ => .inl ⟨rfl, rfl⟩
  | prismatic => exact outcome_limitedJoint typed _ fun _ => .inr ⟨rfl, rfl⟩

theorem firstUnmet_eq_some {q : Requirement} (before : List Requirement)
    {after : List Requirement} (order : Requirement.all = before ++ q :: after) (met : ∀ p ∈ before, r.Meets p)
    (unmet : ¬r.Meets q) : r.firstUnmet = some q := by
  unfold firstUnmet
  rw [List.find?_eq_some_iff_append]
  refine ⟨by simpa using unmet, before, after, order, fun p hp => by simpa using met p hp⟩

theorem firstUnmet_eq_none_iff : r.firstUnmet = none ↔ ∀ q, r.Meets q := by
  unfold firstUnmet
  rw [List.find?_eq_none]
  constructor
  · intro met q
    have listed : q ∈ Requirement.all := by cases q <;> decide
    simpa using met q listed
  · exact fun met q _ => by simpa using met q

theorem joint_outcome (r : JointRecord) :
    (∃ t j, r.HasType t ∧ r.firstUnmet = none ∧ r.joint = .ok j ∧ r.Resolved t j) ∨
    ∃ q, r.firstUnmet = some q ∧ r.joint = .error (r.complaint q) := by
  unfold joint
  rcases type_outcome r with ⟨t, typed, given, read⟩ | ⟨absent, read⟩ | ⟨given, unknown, read⟩
  · rw [read, ok_bind]
    have supported : r.Meets .typeSupported := ⟨t, typed⟩
    cases outcome : r.resolve t with
    | ok j =>
      have h := outcome_resolve typed
      rw [outcome] at h
      cases h with
      | resolved axis limit velocity joint =>
        refine .inl ⟨t, j, typed, firstUnmet_eq_none_iff.2 fun q => ?_, rfl, joint⟩
        cases q <;> assumption
    | error e =>
      have h := outcome_resolve typed
      rw [outcome] at h
      cases h with
      | noAxis axis =>
        refine .inr ⟨_, firstUnmet_eq_some [.typeGiven, .typeSupported] rfl ?_ axis, rfl⟩
        simp [given, supported]
      | noLimit axis limit =>
        refine .inr ⟨_, firstUnmet_eq_some [.typeGiven, .typeSupported, .oneAxis] rfl ?_ limit, rfl⟩
        simp [given, supported, axis]
      | noVelocity axis limit velocity =>
        refine .inr ⟨_, firstUnmet_eq_some [.typeGiven, .typeSupported, .oneAxis, .limitGiven] rfl
          ?_ velocity, rfl⟩
        simp [given, supported, axis, limit]
  · rw [read, error_bind]
    exact .inr ⟨_, firstUnmet_eq_some [] rfl (by simp) absent, rfl⟩
  · rw [read, error_bind]
    exact .inr ⟨_, firstUnmet_eq_some [.typeGiven] rfl (by simp [given]) unknown, rfl⟩

theorem Resolved.drives_of_prismatic (h : r.Resolved .prismatic j) :
    ∃ d, j.drives = [d] := by
  obtain ⟨a, -, axes⟩ := h.axes
  obtain ⟨d, single, -⟩ := List.map_eq_singleton_iff.1 axes
  exact ⟨d, single⟩

theorem Resolved.specifies (h : r.Resolved t j) : j.data.Specifies t j.driveAxes where
  type := by rw [← h.type]; rfl
  limited := by rw [← h.limited]; rfl
  numbers := by
    simp only [List.forall_mem_cons]
    exact ⟨⟨_, rfl⟩, ⟨_, rfl⟩, ⟨_, rfl⟩, by simp⟩
  drives := by
    refine ⟨_, rfl, ?_, List.forall_mem_map.2 fun d hd => ⟨?_, ?_⟩⟩
    · rw [Joint.driveAxes, List.map_map, List.map_map]
      rfl
    · have force := congrArg (fun x => some (Data.real x)) (h.force d hd)
      exact force
    · have lower : some (Data.optional (fun l => .real l.lower) d.limits) =
          if t.isLimited then some (.real j.lowerLimit) else some .null := by
        rw [h.drive_limits d hd, ← h.limited, Joint.lowerLimit]
        cases j.limits <;> rfl
      have upper : some (Data.optional (fun l => .real l.upper) d.limits) =
          if t.isLimited then some (.real j.upperLimit) else some .null := by
        rw [h.drive_limits d hd, ← h.limited, Joint.upperLimit]
        cases j.limits <;> rfl
      simp only [List.forall_mem_cons]
      exact ⟨lower, upper, by simp⟩
  locks := by
    have saved : j.data.get? "linear_locks" = some (.optional LinearLocks.data j.linearLocks) := rfl
    rw [saved]
    split
    next sliding =>
      subst sliding
      obtain ⟨locks, found⟩ := Option.isSome_iff_exists.1 (h.locks.2 rfl)
      obtain ⟨d, single⟩ := h.drives_of_prismatic
      refine ⟨locks.data, by rw [found]; rfl, fun a => ?_⟩
      rw [locks.get?_data, h.locked locks found d (by simp [single]), Joint.driveAxes, single]
      simp [eq_comm]
    next other =>
      have none_locked : j.linearLocks = none := by
        rw [← Option.not_isSome_iff_eq_none, h.locks]
        exact other
      rw [none_locked]
      rfl
  sign := ⟨_, rfl, h.sign⟩

theorem classifyJoint_ok_iff (r : JointRecord) :
    (∃ j, (classifyJoint r).result = .ok j) ↔ r.firstUnmet = none := by
  rw [result_classifyJoint]
  rcases joint_outcome r with ⟨t, j, -, met, joint, -⟩ | ⟨q, unmet, joint⟩
  · simp [joint, met]
  · simp [joint, unmet]

theorem meets_all_iff (r : JointRecord) :
    (∀ q, r.Meets q) ↔ ∃ t, r.HasType t ∧
      (t.hasAxis = true → ∃! a, r.pointsAlong a = true) ∧
      (t.isLimited = true → ∃ l v, r.limit = some l ∧ l.velocity = some v) := by
  constructor
  · intro met
    obtain ⟨t, typed⟩ := met .typeSupported
    refine ⟨t, typed, met .oneAxis t typed, fun limited => ?_⟩
    obtain ⟨l, given⟩ := Option.ne_none_iff_exists'.1 (met .limitGiven t typed limited)
    obtain ⟨v, turning⟩ := Option.ne_none_iff_exists'.1 (met .velocityGiven t typed limited l given)
    exact ⟨l, v, given, turning⟩
  · rintro ⟨t, typed, axis, limit⟩ q
    cases q with
    | typeGiven =>
      obtain ⟨text, given, named⟩ := typed
      refine ⟨by simp [given], fun empty => ?_⟩
      obtain rfl : text = "" := Option.some.inj (given.symm.trans empty)
      cases t <;> revert named <;> decide
    | typeSupported => exact ⟨t, typed⟩
    | oneAxis => exact (meets_oneAxis_iff typed).2 axis
    | limitGiven =>
      refine (meets_limitGiven_iff typed).2 fun limited => ?_
      obtain ⟨l, v, given, -⟩ := limit limited
      simp [given]
    | velocityGiven =>
      refine (meets_velocityGiven_iff typed).2 fun limited l' given' => ?_
      obtain ⟨l, v, given, turning⟩ := limit limited
      obtain rfl : l = l' := Option.some.inj (given.symm.trans given')
      simp [turning]

/-- A joint record is classified just in case it meets the requirements of its type, it is refused
for the first one that it does not meet, and the joint is made as its type demands, in the data that
is saved of it too. -/
theorem classifyJoint_outcome (r : JointRecord) :
    ((∃ j, (classifyJoint r).result = .ok j) ↔ ∃ t, r.HasType t ∧
      (t.hasAxis = true → ∃! a, r.pointsAlong a = true) ∧
      (t.isLimited = true → ∃ l v, r.limit = some l ∧ l.velocity = some v)) ∧
    (∀ e, (classifyJoint r).result = .error e ↔ ∃ q, r.firstUnmet = some q ∧ e = r.complaint q) ∧
    ∀ j, (classifyJoint r).result = .ok j →
      ∃ t, r.HasType t ∧ r.Resolved t j ∧ j.data.Specifies t j.driveAxes := by
  rw [← meets_all_iff, ← firstUnmet_eq_none_iff]
  refine ⟨classifyJoint_ok_iff r, fun e => ?_, fun j => ?_⟩
  · rw [result_classifyJoint]
    rcases joint_outcome r with ⟨t, j, -, met, joint, -⟩ | ⟨q, unmet, joint⟩
    · simp [joint, met]
    · simp [joint, unmet, eq_comm]
  · rw [result_classifyJoint]
    rcases joint_outcome r with ⟨t, j', typed, -, joint, resolved⟩ | ⟨q, -, joint⟩
    · rw [joint]
      rintro ⟨⟩
      exact ⟨t, typed, resolved, resolved.specifies⟩
    · rw [joint]
      intro h
      contradiction

/-- A slide against the second axis, of which the third component is a negative zero. -/
def slide : JointRecord where
  name := "slide"
  type := some " Prismatic"
  parent := "rail"
  child := "carriage"
  origin := .identity
  axis := some [0, -2, -0.0]
  limit := some ⟨-1, 0.5, some 3⟩

theorem classifyJoint_outcome_slide : ∃ j, (classifyJoint slide).result = .ok j ∧
    (j.axisSign, j.driveAxes) = (-1, [.y]) ∧
    ∃ t, slide.HasType t ∧ slide.Resolved t j ∧ j.data.Specifies t j.driveAxes := by
  have outcome : (classifyJoint slide).result.toOption.map (fun j => (j.axisSign, j.driveAxes)) =
      some (-1, [.y]) := by
    decide +kernel
  obtain ⟨j, classified, shape⟩ := exists_ok_of_map outcome
  exact ⟨j, classified, shape, (classifyJoint_outcome slide).2.2 j classified⟩

end JointRecord

end Articulation
