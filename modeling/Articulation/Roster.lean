/-!
Values under names, in the order in which the names were first given. Giving a name again replaces
its value and leaves it in its place.
-/
set_option autoImplicit false

namespace Articulation

structure Roster (α : Type) where
  entries : List (String × α)
  deriving Repr

namespace Roster

variable {α β : Type}

def empty : Roster α := ⟨[]⟩

instance : Inhabited (Roster α) := ⟨empty⟩

def names (r : Roster α) : List String := r.entries.map Prod.fst

def values (r : Roster α) : List α := r.entries.map Prod.snd

def size (r : Roster α) : Nat := r.entries.length

def find? (r : Roster α) (name : String) : Option α := r.entries.lookup name

def contains (r : Roster α) (name : String) : Bool := (r.find? name).isSome

def insertEntry (name : String) (a : α) : List (String × α) → List (String × α)
  | [] => [(name, a)]
  | e :: es => if e.1 = name then (name, a) :: es else e :: insertEntry name a es

def insert (r : Roster α) (name : String) (a : α) : Roster α := ⟨insertEntry name a r.entries⟩

def ofList (es : List (String × α)) : Roster α := es.foldl (fun r e => r.insert e.1 e.2) empty

def keyed (key : α → String) (as : List α) : Roster α := ⟨as.map fun a => (key a, a)⟩

def map (f : α → β) (r : Roster α) : Roster β := ⟨r.entries.map fun e => (e.1, f e.2)⟩

def filter (p : String → Bool) (r : Roster α) : Roster α := ⟨r.entries.filter fun e => p e.1⟩

theorem lookup_insertEntry (name other : String) (a : α) (es : List (String × α)) :
    (insertEntry name a es).lookup other = if other = name then some a else es.lookup other := by
  induction es with
  | nil => by_cases h : other = name <;> grind [insertEntry]
  | cons e es ih =>
    by_cases h : other = name <;> by_cases h' : e.1 = name <;> by_cases h'' : other = e.1 <;>
      grind [insertEntry]

theorem find?_insert (r : Roster α) (name other : String) (a : α) :
    (r.insert name a).find? other = if other = name then some a else r.find? other :=
  lookup_insertEntry name other a r.entries

theorem map_fst_insertEntry (name : String) (a : α) (es : List (String × α)) :
    (insertEntry name a es).map Prod.fst =
      if name ∈ es.map Prod.fst then es.map Prod.fst else es.map Prod.fst ++ [name] := by
  induction es with
  | nil => rfl
  | cons e es ih => grind [insertEntry]

theorem names_insert (r : Roster α) (name : String) (a : α) :
    (r.insert name a).names = if name ∈ r.names then r.names else r.names ++ [name] :=
  map_fst_insertEntry name a r.entries

theorem names_insert_nodup {r : Roster α} (h : r.names.Nodup) (name : String) (a : α) :
    (r.insert name a).names.Nodup := by
  rw [names_insert]
  split
  · exact h
  next new =>
    exact List.nodup_append.2 ⟨h, by simp, fun a ha b hb hab => by simp_all⟩

@[simp] theorem names_map (f : α → β) (r : Roster α) : (r.map f).names = r.names := by
  simp [names, map, Function.comp_def]

@[simp] theorem map_empty (f : α → β) : (empty : Roster α).map f = empty := rfl

theorem map_map {γ : Type} (f : α → β) (g : β → γ) (r : Roster α) :
    (r.map f).map g = r.map fun a => g (f a) := by
  simp [map, Function.comp_def]

@[simp] theorem find?_map (f : α → β) (r : Roster α) (name : String) :
    (r.map f).find? name = (r.find? name).map f := by
  obtain ⟨es⟩ := r
  simp only [find?, map]
  induction es with
  | nil => rfl
  | cons e es ih =>
    obtain ⟨key, a⟩ := e
    rw [List.map_cons, List.lookup_cons, List.lookup_cons, ih]
    cases name == key <;> rfl

@[simp] theorem contains_map (f : α → β) (r : Roster α) (name : String) :
    (r.map f).contains name = r.contains name := by
  simp [contains]

@[simp] theorem values_map (f : α → β) (r : Roster α) : (r.map f).values = r.values.map f := by
  simp [values, map]

theorem insert_map (f : α → β) (r : Roster α) (name : String) (a : α) :
    (r.map f).insert name (f a) = (r.insert name a).map f := by
  obtain ⟨es⟩ := r
  simp only [insert, map]
  congr 1
  induction es with
  | nil => rfl
  | cons e es ih => by_cases h : e.1 = name <;> simp_all [insertEntry]

@[simp] theorem names_filter (p : String → Bool) (r : Roster α) :
    (r.filter p).names = r.names.filter p := by
  simp [names, filter, List.filter_map, Function.comp_def]

theorem find?_filter (p : String → Bool) (r : Roster α) (name : String) :
    (r.filter p).find? name = if p name then r.find? name else none := by
  obtain ⟨es⟩ := r
  simp only [find?, filter]
  induction es with
  | nil => simp
  | cons e es ih =>
    by_cases here : name = e.1 <;> cases kept : p e.1 <;> grind

theorem contains_iff (r : Roster α) (name : String) : r.contains name = true ↔ name ∈ r.names := by
  obtain ⟨es⟩ := r
  simp only [contains, find?, names]
  induction es with
  | nil => simp
  | cons e es ih => by_cases h : name = e.1 <;> grind

theorem mem_entries_of_find? {r : Roster α} {name : String} {a : α} (h : r.find? name = some a) :
    (name, a) ∈ r.entries := by
  obtain ⟨es⟩ := r
  simp only [find?] at h ⊢
  induction es with
  | nil => simp at h
  | cons e es ih => by_cases he : name = e.1 <;> grind

theorem find?_of_mem_entries {r : Roster α} (h : r.names.Nodup) {name : String} {a : α}
    (ha : (name, a) ∈ r.entries) : r.find? name = some a := by
  obtain ⟨es⟩ := r
  simp only [find?, names] at h ha ⊢
  induction es with
  | nil => simp at ha
  | cons e es ih => by_cases he : name = e.1 <;> grind

theorem entries_insert_of_new {r : Roster α} {name : String} (h : name ∉ r.names) (a : α) :
    (r.insert name a).entries = r.entries ++ [(name, a)] := by
  obtain ⟨es⟩ := r
  simp only [names, insert] at h ⊢
  induction es with
  | nil => rfl
  | cons e es ih => grind [insertEntry]

theorem entries_ofList {es : List (String × α)} (distinct : (es.map Prod.fst).Nodup) :
    (ofList es).entries = es := by
  suffices all : ∀ r : Roster α, ((r.entries ++ es).map Prod.fst).Nodup →
      (es.foldl (fun r e => r.insert e.1 e.2) r).entries = r.entries ++ es from
    all empty (by simpa [empty] using distinct)
  clear distinct
  induction es with
  | nil => simp
  | cons e es ih =>
    intro r distinct
    have new : e.1 ∉ r.names := by
      intro listed
      rw [List.map_append, List.nodup_append] at distinct
      exact distinct.2.2 e.1 listed e.1 (by simp) rfl
    have inserted := entries_insert_of_new new e.2
    rw [List.foldl_cons, ih _ (by simpa [inserted] using distinct), inserted]
    simp

theorem mem_names_insert {r : Roster α} {name other : String} {a : α} :
    other ∈ (r.insert name a).names ↔ other = name ∨ other ∈ r.names := by
  rw [names_insert]
  split <;> grind

theorem mem_entries_insert {r : Roster α} {name : String} {a : α} {e : String × α}
    (h : e ∈ (r.insert name a).entries) : e = (name, a) ∨ e ∈ r.entries := by
  obtain ⟨es⟩ := r
  simp only [insert] at h ⊢
  induction es with
  | nil => simpa [insertEntry] using h
  | cons d es ih => grind [insertEntry]

theorem forall_entries_insert {r : Roster α} {name : String} {a : α} {p : String × α → Prop}
    (old : ∀ e ∈ r.entries, p e) (here : p (name, a)) : ∀ e ∈ (r.insert name a).entries, p e := by
  intro e he
  rcases mem_entries_insert he with rfl | h
  · exact here
  · exact old e h

section Keyed

variable {key : α → String}

@[simp] theorem names_keyed (key : α → String) (as : List α) :
    (keyed key as).names = as.map key := by
  simp [names, keyed]

@[simp] theorem values_keyed (key : α → String) (as : List α) : (keyed key as).values = as := by
  simp [values, keyed, Function.comp_def]

theorem insert_keyed (key : α → String) {as : List α} {a : α} (new : key a ∉ as.map key) :
    (keyed key as).insert (key a) a = keyed key (as ++ [a]) := by
  have entries := entries_insert_of_new (r := keyed key as) (by simpa using new) a
  simp only [keyed, List.map_append, List.map_cons, List.map_nil] at entries ⊢
  exact congrArg Roster.mk entries

theorem map_keyed {f : α → α} (hf : ∀ a, key (f a) = key a) (as : List α) :
    (keyed key as).map f = keyed key (as.map f) := by
  simp [map, keyed, Function.comp_def, hf]

theorem forall_keyed {as : List α} {p : String × α → Prop} :
    (∀ e ∈ (keyed key as).entries, p e) ↔ ∀ a ∈ as, p (key a, a) := List.forall_mem_map

variable {r : Roster α} (keyed : ∀ e ∈ r.entries, key e.2 = e.1)

include keyed

theorem names_of_keyed : r.names = r.values.map key := by
  simp only [names, values, List.map_map]
  exact List.map_congr_left fun e he => (keyed e he).symm

theorem find?_of_keyed (nodup : r.names.Nodup) {name : String} {a : α} :
    r.find? name = some a ↔ a ∈ r.values ∧ key a = name := by
  constructor
  · intro h
    have he := mem_entries_of_find? h
    exact ⟨List.mem_map_of_mem he, keyed _ he⟩
  · intro ⟨ha, here⟩
    obtain ⟨e, he, rfl⟩ := List.mem_map.1 ha
    refine find?_of_mem_entries nodup ?_
    rw [← here, keyed e he]
    exact he

end Keyed

end Roster

end Articulation
