import Articulation.Proofs.Records
import Articulation.Tree.Associate
/-!
Which nodes an association is about. It reads the links of the nodes that have a mesh, in the order
of the walk, and nothing else, and if their meshes have names it fails only for want of a collision
mesh that is required.
-/
set_option autoImplicit false

namespace Articulation

variable {source : CollisionSource} {lookup : Option Lookup} {required : Bool}

/-- The nodes that get a collision mesh if there is one. -/
def meshNodes (ns : List Node) : List Node := ns.filter fun n => n.link.hasMesh

theorem associateNodes_meshNodes (count : Nat) (ns : List Node) :
    associateNodes source lookup required count (meshNodes ns) =
      associateNodes source lookup required count ns := by
  induction ns generalizing count with
  | nil => rfl
  | cons n ns ih =>
    unfold meshNodes at ih ⊢
    cases hasMesh : n.link.hasMesh with
    | false => simp [associateNodes, hasMesh, ih]
    | true => simp only [List.filter_cons, hasMesh, if_true, associateNodes, ih]

theorem associateNodes_links (count : Nat) {ns ms : List Node}
    (h : ns.map Node.link = ms.map Node.link) :
    associateNodes source lookup required count ns =
      associateNodes source lookup required count ms := by
  induction ns generalizing count ms with
  | nil =>
    cases ms with
    | nil => rfl
    | cons m ms => simp at h
  | cons n ns ih =>
    cases ms with
    | nil => simp at h
    | cons m ms =>
      rw [List.map_cons, List.map_cons, List.cons.injEq] at h
      obtain ⟨link, rest⟩ := h
      simp only [associateNodes, Node.name, link, ih _ rest]

theorem associateNodes_congr (count : Nat) {ns ms : List Node}
    (h : (meshNodes ns).map Node.link = (meshNodes ms).map Node.link) :
    associateNodes source lookup required count ns =
      associateNodes source lookup required count ms := by
  rw [← associateNodes_meshNodes count ns, ← associateNodes_meshNodes count ms]
  exact associateNodes_links count h

theorem exists_collisionIdentifier {l : Link} (named : l.MeshNamed) (hasMesh : l.hasMesh = true)
    (source : CollisionSource) :
    ∃ identifier, collisionIdentifier? l.asset source = some identifier := by
  obtain ⟨name, h⟩ := Option.isSome_iff_exists.1 (named hasMesh)
  unfold collisionIdentifier? AssetPath.withName?
  rw [h]
  exact ⟨_, rfl⟩

/-- What an association fails for is the collision mesh of one of the nodes. -/
theorem failure_of_associateNodes {count : Nat} {ns : List Node}
    (named : ∀ n ∈ ns, n.link.MeshNamed) {f : Failure}
    (h : (associateNodes source lookup required count ns).failure = some f) :
    ∃ n ∈ ns, ∃ identifier, f = .description (.missingCollision identifier n.name) := by
  induction ns generalizing count with
  | nil => contradiction
  | cons n ns ih =>
    -- the count of the nodes differs from case to case, the claim for what follows does not
    have rest {count : Nat}
        (h : (associateNodes source lookup required count ns).failure = some f) :
        ∃ m ∈ n :: ns, ∃ identifier, f = .description (.missingCollision identifier m.name) := by
      obtain ⟨m, hm, identifier, same⟩ := ih (fun m hm => named m (List.mem_cons_of_mem n hm)) h
      exact ⟨m, List.mem_cons_of_mem n hm, identifier, same⟩
    unfold associateNodes at h
    split at h
    next => exact rest h
    next hasMesh =>
      obtain ⟨identifier, found⟩ :=
        exists_collisionIdentifier (named n List.mem_cons_self) (by simpa using hasMesh) source
      rw [found] at h
      simp only at h
      split at h
      next => exact rest h
      next =>
        split at h
        next => exact ⟨n, List.mem_cons_self, identifier, (Option.some.inj h).symm⟩
        next => exact rest h

theorem hasMesh_of_attached {count : Nat} {ns : List Node} {p : String × CollisionGeometry}
    (h : p ∈ (associateNodes source lookup required count ns).attached) :
    ∃ n ∈ ns, n.link.hasMesh = true ∧ n.name = p.1 := by
  induction ns generalizing count with
  | nil => simp [associateNodes] at h
  | cons n ns ih =>
    have rest {count : Nat}
        (h : p ∈ (associateNodes source lookup required count ns).attached) :
        ∃ m ∈ n :: ns, m.link.hasMesh = true ∧ m.name = p.1 := by
      obtain ⟨m, hm, found⟩ := ih h
      exact ⟨m, List.mem_cons_of_mem n hm, found⟩
    unfold associateNodes at h
    split at h
    next => exact rest h
    next hasMesh =>
      split at h
      next => simp at h
      next =>
        simp only at h
        split at h
        next =>
          rw [Association.prepend, List.mem_append, List.mem_singleton] at h
          rcases h with rfl | h
          · exact ⟨n, List.mem_cons_self, by simpa using hasMesh, rfl⟩
          · exact rest h
        next =>
          split at h
          next => simp at h
          next => exact rest h

end Articulation
