/-!
# Strictly increasing lists

A finite set can be kept as the list of its members in strictly increasing order.
Then the list is determined by the set.
-/

namespace FacetedSearch

universe u

/-- Strictly increasing lists with the same members are the same list. -/
theorem eq_of_mem_iff_of_pairwise {α : Type u} {r : α → α → Prop} (irrefl : ∀ a, ¬ r a a)
    (trans : ∀ a b c, r a b → r b c → r a c) {xs ys : List α} (hx : xs.Pairwise r)
    (hy : ys.Pairwise r) (h : ∀ a, a ∈ xs ↔ a ∈ ys) : xs = ys := by
  induction xs generalizing ys with
  | nil =>
    cases ys with
    | nil => rfl
    | cons y ys => exact absurd ((h y).2 List.mem_cons_self) List.not_mem_nil
  | cons x xs ih =>
    cases ys with
    | nil => exact absurd ((h x).1 List.mem_cons_self) List.not_mem_nil
    | cons y ys =>
      have ⟨hxfirst, hxrest⟩ := List.pairwise_cons.1 hx
      have ⟨hyfirst, hyrest⟩ := List.pairwise_cons.1 hy
      have hxy : x = y := by
        rcases List.mem_cons.1 ((h x).1 List.mem_cons_self) with heq | hmem
        · exact heq
        · rcases List.mem_cons.1 ((h y).2 List.mem_cons_self) with heq | hmem'
          · exact heq.symm
          · exact absurd (trans _ _ _ (hxfirst y hmem') (hyfirst x hmem)) (irrefl x)
      subst hxy
      refine congrArg (x :: ·) (ih hxrest hyrest fun a => ⟨fun hmem => ?_, fun hmem => ?_⟩)
      · rcases List.mem_cons.1 ((h a).1 (List.mem_cons_of_mem x hmem)) with rfl | hmem'
        · exact absurd (hxfirst _ hmem) (irrefl _)
        · exact hmem'
      · rcases List.mem_cons.1 ((h a).2 (List.mem_cons_of_mem x hmem)) with rfl | hmem'
        · exact absurd (hyfirst _ hmem) (irrefl _)
        · exact hmem'

end FacetedSearch
