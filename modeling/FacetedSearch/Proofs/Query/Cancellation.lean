import FacetedSearch.Proofs.Query.Equality

/-!
# Parts of queries that are the same

Two queries that are the same, and that are made of a common part, one part of
their own and another common part, are the same in their own parts. This needs the lengths of
the lists: what stands before and after is cut off clause by clause.
-/

namespace FacetedSearch

/-! ### Lists of clauses -/

/-- Lists of clauses that are the same are equally long. -/
theorem Clause.length_eq_of_sameAll {as bs : List Clause} (h : Clause.sameAll as bs = true) :
    as.length = bs.length := by
  induction as generalizing bs with
  | nil =>
    cases bs with
    | nil => rfl
    | cons b bs => simp [Clause.sameAll] at h
  | cons a as ih =>
    cases bs with
    | nil => simp [Clause.sameAll] at h
    | cons b bs =>
      rw [Clause.sameAll, Bool.and_eq_true] at h
      rw [List.length_cons, List.length_cons, ih h.2]

/-- Lists whose first parts are equally long are compared part by part. -/
theorem Clause.sameAll_append {as bs cs ds : List Clause} (hlength : as.length = bs.length) :
    Clause.sameAll (as ++ cs) (bs ++ ds) = (Clause.sameAll as bs && Clause.sameAll cs ds) := by
  induction as generalizing bs with
  | nil =>
    obtain rfl : bs = [] := List.length_eq_zero_iff.mp hlength.symm
    rfl
  | cons a as ih =>
    cases bs with
    | nil => simp at hlength
    | cons b bs =>
      have hrest : as.length = bs.length := Nat.succ.inj hlength
      rw [List.cons_append, List.cons_append, Clause.sameAll, Clause.sameAll, ih hrest,
        Bool.and_assoc]

/-- What stands in both lists before and after can be cut off. -/
theorem Clause.sameAll_of_append_append {before after as bs : List Clause}
    (h : Clause.sameAll (before ++ as ++ after) (before ++ bs ++ after) = true) :
    Clause.sameAll as bs = true := by
  have hlength : as.length = bs.length := by
    have htotal := Clause.length_eq_of_sameAll h
    simp only [List.length_append] at htotal
    omega
  have hparts : (before ++ as).length = (before ++ bs).length := by
    rw [List.length_append, List.length_append, hlength]
  rw [Clause.sameAll_append hparts, Bool.and_eq_true, Clause.sameAll_append rfl,
    Bool.and_eq_true] at h
  exact h.1.2

/-! ### Queries -/

namespace BooleanQuery

/-- Queries that are the same are the same in each of their lists. -/
theorem sameAll_clauses {a b : BooleanQuery} (h : a.same b = true) (occurrence : Occurrence) :
    Clause.sameAll (a.clauses occurrence) (b.clauses occurrence) = true := by
  obtain ⟨filter, mustNot, must, should, minimum⟩ := a
  obtain ⟨filter', mustNot', must', should', minimum'⟩ := b
  simp only [same, Bool.and_eq_true] at h
  obtain ⟨⟨⟨⟨hfilter, hmustNot⟩, hmust⟩, hshould⟩, -⟩ := h
  cases occurrence with
  | filter => exact hfilter
  | must => exact hmust
  | mustNot => exact hmustNot
  | should => exact hshould

/-- Of queries that are the same, each list of the parts that are not common is the same. -/
theorem sameAll_of_append {earlier later a b : BooleanQuery}
    (h : (earlier.append (a.append later)).same (earlier.append (b.append later)) = true)
    (occurrence : Occurrence) :
    Clause.sameAll (a.clauses occurrence) (b.clauses occurrence) = true := by
  have hlists := sameAll_clauses h occurrence
  simp only [clauses_append, ← List.append_assoc] at hlists
  exact Clause.sameAll_of_append_append hlists

/-- Alternatives stand in one group of their own. -/
theorem clauses_ofAlternatives_cons (occurrence : Occurrence) (clause : Clause)
    (rest : List Clause) :
    (ofAlternatives occurrence (clause :: rest)).clauses occurrence =
      [.group { should := clause :: rest, minimum := some 1 }] := by
  rw [ofAlternatives_cons, single, clauses_add, if_pos rfl]
  cases occurrence <;> rfl

/-- Without alternatives there is no group. -/
theorem clauses_ofAlternatives_nil (occurrence : Occurrence) :
    (ofAlternatives occurrence []).clauses occurrence = [] := by
  rw [ofAlternatives_nil]
  cases occurrence <;> rfl

/-- Alternatives that are demanded in groups that are the same are the same. -/
theorem sameAll_of_ofAlternatives {occurrence : Occurrence}
    {alternatives alternatives' : List Clause}
    (h : Clause.sameAll ((ofAlternatives occurrence alternatives).clauses occurrence)
      ((ofAlternatives occurrence alternatives').clauses occurrence) = true) :
    Clause.sameAll alternatives alternatives' = true := by
  cases alternatives with
  | nil =>
    cases alternatives' with
    | nil => rfl
    | cons clause' rest' =>
      rw [clauses_ofAlternatives_nil, clauses_ofAlternatives_cons] at h
      simp [Clause.sameAll] at h
  | cons clause rest =>
    cases alternatives' with
    | nil =>
      rw [clauses_ofAlternatives_nil, clauses_ofAlternatives_cons] at h
      simp [Clause.sameAll] at h
    | cons clause' rest' =>
      rw [clauses_ofAlternatives_cons, clauses_ofAlternatives_cons, Clause.sameAll,
        Bool.and_eq_true, Clause.same] at h
      exact sameAll_clauses h.1 .should

end BooleanQuery

end FacetedSearch
