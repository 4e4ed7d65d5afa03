import Articulation.Tree.Basic
import Mathlib.Data.List.Basic
import Mathlib.Data.List.Flatten
/-!
The order of a walk. A forest is walked generation by generation: first its own nodes, then all
their children, then the children of these. `generation_induction` is the way to prove something of
every walk, and `walk_eq_queueWalk` says that the same order comes out of a queue.
-/
set_option autoImplicit false

namespace Articulation.Node

open levelsOf (levelsOfAll)

variable {keep : Node → Bool}

@[simp] theorem besideLevels_nil_right (as : List (List Node)) : besideLevels as [] = as := by
  cases as <;> rfl

theorem besideLevels_assoc (as bs cs : List (List Node)) :
    besideLevels (besideLevels as bs) cs = besideLevels as (besideLevels bs cs) := by
  induction as generalizing bs cs with
  | nil => rfl
  | cons a as ih =>
    cases bs with
    | nil => rfl
    | cons b bs =>
      cases cs with
      | nil => simp
      | cons c cs => simp only [besideLevels, List.append_assoc, ih]

theorem flatten_besideLevels_perm (as bs : List (List Node)) :
    (besideLevels as bs).flatten.Perm (as.flatten ++ bs.flatten) := by
  induction as generalizing bs with
  | nil => exact List.Perm.refl _
  | cons a as ih =>
    cases bs with
    | nil => simp
    | cons b bs =>
      simp only [besideLevels, List.flatten_cons]
      have h : (b ++ (besideLevels as bs).flatten).Perm (as.flatten ++ (b ++ bs.flatten)) := by
        refine ((ih bs).append_left b).trans ?_
        rw [← List.append_assoc, ← List.append_assoc]
        exact List.perm_append_comm.append_right _
      simpa only [List.append_assoc] using h.append_left a

theorem levelsOf_eq (keep : Node → Bool) (n : Node) :
    n.levelsOf keep = [n] :: levelsOfAll keep n.children := by
  cases n
  rfl

theorem levelsOfAll_append (keep : Node → Bool) (xs ys : List Node) :
    levelsOfAll keep (xs ++ ys) = besideLevels (levelsOfAll keep xs) (levelsOfAll keep ys) := by
  induction xs with
  | nil => rfl
  | cons x xs ih =>
    simp only [List.cons_append, levelsOfAll, ih]
    split
    · rw [besideLevels_assoc]
    · rfl

/-- The first level holds the nodes that are entered, and the levels below it are those of their
children. -/
theorem levelsOfAll_eq (keep : Node → Bool) (ns : List Node) :
    levelsOfAll keep ns =
      if ns.filter keep = [] then []
      else ns.filter keep :: levelsOfAll keep ((ns.filter keep).flatMap children) := by
  induction ns with
  | nil => rfl
  | cons n ns ih =>
    simp only [levelsOfAll]
    by_cases hn : keep n
    · rw [if_pos hn, List.filter_cons_of_pos hn, levelsOf_eq, ih]
      by_cases hs : ns.filter keep = []
      · simp [hs]
      · simp [hs, besideLevels, levelsOfAll_append]
    · rw [if_neg hn, List.filter_cons_of_neg hn, ih]

/-- What passes from the children of a node to the node holds of all nodes. -/
theorem child_induction {P : Node → Prop} (step : ∀ n, (∀ c ∈ n.children, P c) → P n) :
    ∀ n, P n
  | mk l j c ns => step (mk l j c ns) fun m (_ : m ∈ ns) => child_induction step m

def walkAll (keep : Node → Bool) (ns : List Node) : List Node := (levelsOfAll keep ns).flatten

@[simp] theorem walkAll_nil : walkAll keep [] = [] := rfl

theorem walkAll_eq (keep : Node → Bool) (ns : List Node) :
    walkAll keep ns =
      ns.filter keep ++ walkAll keep ((ns.filter keep).flatMap children) := by
  unfold walkAll
  rw [levelsOfAll_eq]
  split
  next h => simp [h, levelsOfAll]
  next => rfl

theorem walkKeeping_eq (keep : Node → Bool) (n : Node) :
    n.walkKeeping keep = n :: walkAll keep n.children := by
  simp [walkKeeping, walkAll, levelsOf_eq]

abbrev forest (ns : List Node) : List Node := walkAll (fun _ => true) ns

theorem forest_eq (ns : List Node) : forest ns = ns ++ forest (ns.flatMap children) := by
  have h := walkAll_eq (fun _ => true) ns
  rwa [List.filter_true] at h

theorem walk_eq (n : Node) : n.walk = n :: forest n.children := walkKeeping_eq _ n

/-- What passes from every generation to the one above it holds of all forests: there are only
finitely many generations. -/
theorem generation_induction (keep : Node → Bool) {P : List Node → Prop} (nil : P [])
    (step : ∀ ns, P ((ns.filter keep).flatMap children) → P ns) (ns : List Node) : P ns := by
  -- by the number of levels, of which the children have one less
  generalize h : (levelsOfAll keep ns).length = k
  induction k generalizing ns with
  | zero =>
    rw [levelsOfAll_eq] at h
    split at h
    next empty => exact step ns (by rw [empty]; exact nil)
    next => simp at h
  | succ k ih =>
    rw [levelsOfAll_eq] at h
    split at h
    next => simp at h
    next => exact step ns (ih _ (by simpa using h))

theorem forest_induction {P : List Node → Prop} (nil : P [])
    (step : ∀ ns, P (ns.flatMap children) → P ns) (ns : List Node) : P ns :=
  generation_induction (fun _ => true) nil (fun ns h => step ns (by rwa [List.filter_true] at h)) ns

theorem walkAll_perm (keep : Node → Bool) (ns : List Node) :
    (walkAll keep ns).Perm ((ns.filter keep).flatMap (walkKeeping keep)) := by
  induction ns with
  | nil => exact List.Perm.refl _
  | cons n ns ih =>
    unfold walkAll at ih ⊢
    simp only [levelsOfAll]
    by_cases hn : keep n
    · rw [if_pos hn, List.filter_cons_of_pos hn, List.flatMap_cons]
      exact (flatten_besideLevels_perm _ _).trans (ih.append_left _)
    · rwa [if_neg hn, List.filter_cons_of_neg hn]

theorem mem_forest {m : Node} {ns : List Node} : m ∈ forest ns ↔ ∃ n ∈ ns, m ∈ n.walk := by
  have h := (walkAll_perm (fun _ => true) ns).mem_iff (a := m)
  rw [List.filter_true, List.mem_flatMap] at h
  exact h

theorem mem_walk {m n : Node} : m ∈ n.walk ↔ m = n ∨ ∃ c ∈ n.children, m ∈ c.walk := by
  rw [walk_eq, List.mem_cons, mem_forest]

theorem self_mem_walk (n : Node) : n ∈ n.walk := mem_walk.2 (.inl rfl)

theorem forest_closed {c m : Node} (hc : c ∈ m.children) (ns : List Node) (h : m ∈ forest ns) :
    c ∈ forest ns := by
  induction ns using forest_induction with
  | nil => simp at h
  | step ns ih =>
    rw [forest_eq] at h ⊢
    rcases List.mem_append.1 h with top | below
    · have first : c ∈ ns.flatMap children := List.mem_flatMap.2 ⟨m, top, hc⟩
      refine List.mem_append_right _ ?_
      rw [forest_eq]
      exact List.mem_append_left _ first
    · exact List.mem_append_right _ (ih below)

theorem walk_closed {c m n : Node} (h : m ∈ n.walk) (hc : c ∈ m.children) : c ∈ n.walk := by
  have walked : n.walk = forest [n] := by simp [forest_eq [n], walk_eq]
  rw [walked] at h ⊢
  exact forest_closed hc [n] h

theorem forest_parent_before {before after : List Node} {c : Node} (ns : List Node)
    (h : forest ns = before ++ c :: after) : c ∈ ns ∨ ∃ m ∈ before, c ∈ m.children := by
  induction ns using forest_induction generalizing before with
  | nil => simp at h
  | step ns ih =>
    rw [forest_eq] at h
    -- `c` stands below the first generation, or in it; a node that is first of what is below
    -- falls under both cases
    rcases List.append_eq_append_iff.1 h with ⟨rest, hbefore, hbelow⟩ | ⟨rest, htop, hafter⟩
    · rcases ih hbelow with top | ⟨m, hm, hc⟩
      · obtain ⟨m, hm, hc⟩ := List.mem_flatMap.1 top
        exact .inr ⟨m, by simp [hbefore, hm], hc⟩
      · exact .inr ⟨m, by simp [hbefore, hm], hc⟩
    · cases rest with
      | nil =>
        simp only [List.nil_append] at hafter
        rcases @ih [] hafter.symm with top | ⟨m, hm, _⟩
        · obtain ⟨m, hm, hc⟩ := List.mem_flatMap.1 top
          rw [List.append_nil] at htop
          exact .inr ⟨m, by rwa [← htop], hc⟩
        · simp at hm
      | cons d rest =>
        obtain ⟨rfl, -⟩ := List.cons.inj hafter
        exact .inl (by simp [htop])

theorem walk_parent_before {n c : Node} {before after : List Node}
    (h : n.walk = n :: before ++ c :: after) : ∃ m ∈ n :: before, c ∈ m.children := by
  rw [walk_eq, List.cons_append, List.cons.injEq] at h
  rcases forest_parent_before n.children h.2 with top | ⟨m, hm, hc⟩
  · exact ⟨n, List.mem_cons_self, top⟩
  · exact ⟨m, List.mem_cons_of_mem _ hm, hc⟩

/-- If every node keeps just the images of those children that are entered, the image is walked as
the original is. -/
theorem forest_map_filter (keep : Node → Bool) (f : Node → Node)
    (hf : ∀ n, (f n).children = (n.children.filter keep).map f) (ns : List Node) :
    forest ((ns.filter keep).map f) = (walkAll keep ns).map f := by
  induction ns using generation_induction keep with
  | nil => rfl
  | step ns ih =>
    have below : ((ns.filter keep).map f).flatMap children =
        (((ns.filter keep).flatMap children).filter keep).map f := by
      simp [List.flatMap_map, hf, List.filter_flatMap, List.map_flatMap]
    rw [forest_eq, walkAll_eq keep ns, List.map_append, below, ih]

theorem walkAll_sublist_forest (keep : Node → Bool) (ns : List Node) :
    ∀ ms : List Node, ms.Sublist ns → (walkAll keep ms).Sublist (forest ns) := by
  -- the generations of `ms` need not end with those of `ns`, so the induction is on `ns`
  induction ns using forest_induction with
  | nil =>
    intro ms h
    rw [List.sublist_nil.1 h]
    exact List.Sublist.refl _
  | step ns ih =>
    intro ms h
    rw [walkAll_eq, forest_eq]
    have kept : (ms.filter keep).Sublist ns := List.filter_sublist.trans h
    exact kept.append (ih _ (kept.flatMap children))

def count : Node → Nat
  | mk _ _ _ children => countAll children + 1
where
  countAll : List Node → Nat
    | [] => 0
    | n :: ns => n.count + countAll ns

open count (countAll)

theorem count_eq (n : Node) : n.count = countAll n.children + 1 := by
  cases n
  rfl

theorem countAll_append (xs ys : List Node) :
    countAll (xs ++ ys) = countAll xs + countAll ys := by
  induction xs with
  | nil => simp [countAll]
  | cons x xs ih => simp only [List.cons_append, countAll, ih]; omega

def queueWalk : List Node → List Node
  | [] => []
  | n :: queue => n :: queueWalk (queue ++ n.children)
termination_by queue => countAll queue
decreasing_by
  rw [countAll_append, countAll, count_eq]
  omega

theorem queueWalk_append (xs ys : List Node) :
    queueWalk (xs ++ ys) = xs ++ queueWalk (ys ++ xs.flatMap children) := by
  induction xs generalizing ys with
  | nil => simp
  | cons x xs ih =>
    rw [List.cons_append, queueWalk, List.append_assoc, ih]
    simp [List.append_assoc]

theorem forest_eq_queueWalk (ns : List Node) : forest ns = queueWalk ns := by
  induction ns using forest_induction with
  | nil => rw [queueWalk]; rfl
  | step ns ih =>
    have taken := queueWalk_append ns []
    simp only [List.append_nil, List.nil_append] at taken
    rw [forest_eq, taken, ih]

/-- A walk is what a queue yields that holds the root at first. -/
theorem walk_eq_queueWalk (n : Node) : n.walk = queueWalk [n] := by
  rw [walk_eq, queueWalk, forest_eq_queueWalk, List.nil_append]

end Articulation.Node
