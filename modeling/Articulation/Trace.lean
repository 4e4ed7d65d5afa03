/-!
Computations that keep a record of what they did: the notes they wrote for whoever follows their
progress, and the questions they put to the lookups that were handed to them. The record is kept
also when a computation fails. `Traced.result` is a homomorphism, so a statement about results may
leave the record out of sight.
-/
set_option autoImplicit false

namespace Articulation

inductive Level where
  | debug | info | warning | error
  deriving DecidableEq, Repr

inductive Topic where
  | joints | description | tree | pruning | collision | compilation
  deriving DecidableEq, Repr

inductive Event where
  | note (level : Level) (topic : Topic) (text : String)
  | collisionQuery (identifier : String)
  | meshQuery (asset : String)
  deriving DecidableEq, Repr

structure Traced (ε α : Type) where
  events : List Event
  result : Except ε α

@[simp] theorem ok_bind {ε α β : Type} (a : α) (f : α → Except ε β) : Except.ok a >>= f = f a := rfl

@[simp] theorem error_bind {ε α β : Type} (e : ε) (f : α → Except ε β) :
    Except.error e >>= f = .error e := rfl

theorem bind_eq_ok {ε α β : Type} {x : Except ε α} {f : α → Except ε β} {b : β} :
    x >>= f = .ok b ↔ ∃ a, x = .ok a ∧ f a = .ok b := by
  cases x <;> simp [bind, Except.bind]

theorem bind_eq_error {ε α β : Type} {x : Except ε α} {f : α → Except ε β} {e : ε} :
    x >>= f = .error e ↔ x = .error e ∨ ∃ a, x = .ok a ∧ f a = .error e := by
  cases x <;> simp [bind, Except.bind]

theorem mapError_eq_ok {ε ε' α : Type} {x : Except ε α} {f : ε → ε'} {a : α} :
    x.mapError f = .ok a ↔ x = .ok a := by
  cases x with
  | ok b => exact ⟨fun h => congrArg _ (Except.ok.inj h), fun h => congrArg _ (Except.ok.inj h)⟩
  | error e => exact ⟨fun h => by contradiction, fun h => by contradiction⟩

theorem mapError_eq_error {ε ε' α : Type} {x : Except ε α} {f : ε → ε'} {e' : ε'} :
    x.mapError f = .error e' ↔ ∃ e, x = .error e ∧ f e = e' := by
  cases x with
  | ok a => exact ⟨fun h => by contradiction, fun ⟨_, h, _⟩ => by contradiction⟩
  | error e =>
    refine ⟨fun h => ⟨e, rfl, Except.error.inj h⟩, fun ⟨_, h, same⟩ => ?_⟩
    cases h
    exact congrArg _ same

theorem mapError_map {ε ε' α β : Type} (f : α → β) (g : ε → ε') (x : Except ε α) :
    (f <$> x).mapError g = f <$> x.mapError g := by
  cases x <;> rfl

theorem exists_ok_of_map {ε α β : Type} {x : Except ε α} {f : α → β} {b : β}
    (h : x.toOption.map f = some b) : ∃ a, x = .ok a ∧ f a = b := by
  cases x with
  | ok a => exact ⟨a, rfl, Option.some.inj h⟩
  | error e => contradiction

namespace Traced

variable {ε ε' α β : Type}

instance : Monad (Traced ε) where
  pure a := ⟨[], .ok a⟩
  bind t f := match t.result with
    | .ok a => ⟨t.events ++ (f a).events, (f a).result⟩
    | .error e => ⟨t.events, .error e⟩

def fail (e : ε) : Traced ε α := ⟨[], .error e⟩

def record (events : List Event) : Traced ε Unit := ⟨events, .ok ()⟩

def note (level : Level) (topic : Topic) (text : String) : Traced ε Unit :=
  record [.note level topic text]

def ofExcept (r : Except ε α) : Traced ε α := ⟨[], r⟩

instance : MonadLift (Except ε) (Traced ε) := ⟨ofExcept⟩

def mapError (f : ε → ε') (t : Traced ε α) : Traced ε' α := ⟨t.events, t.result.mapError f⟩

@[simp] theorem result_pure (a : α) : (pure a : Traced ε α).result = .ok a := rfl

@[simp] theorem result_bind (t : Traced ε α) (f : α → Traced ε β) :
    (t >>= f).result = t.result >>= fun a => (f a).result := by
  obtain ⟨es, r⟩ := t
  cases r <;> rfl

@[simp] theorem result_fail (e : ε) : (fail e : Traced ε α).result = .error e := rfl

@[simp] theorem result_note (l : Level) (p : Topic) (s : String) :
    (note l p s : Traced ε Unit).result = .ok () := rfl

@[simp] theorem result_record (es : List Event) : (record es : Traced ε Unit).result = .ok () := rfl

@[simp] theorem result_liftM (r : Except ε α) : (liftM r : Traced ε α).result = r := rfl

@[simp] theorem result_mapError (f : ε → ε') (t : Traced ε α) :
    (t.mapError f).result = t.result.mapError f := rfl

end Traced

end Articulation
