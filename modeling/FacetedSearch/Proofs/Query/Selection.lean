import FacetedSearch.Facet.Meaning
import FacetedSearch.Proofs.Query.Appending

/-!
# What appended queries select

The alternatives of a query hold of a record exactly if that many of them, taken out of the
list, hold together. Appending adds up the least numbers' lists and not their
demands, so it is a conjunction only among queries without a least number; these
select what each of their parts selects.
-/

namespace FacetedSearch

universe u

variable {Record : Type u} {model : RecordModel Record} {record : Record}

/-- At least so many clauses hold exactly if that many can be picked that all hold. -/
theorem Clause.atLeastHold_iff (clauses : List Clause) (n : Nat) :
    Clause.AtLeastHold model record clauses n ↔
      ∃ held : List Clause, held.Sublist clauses ∧ held.length = n ∧
        ∀ clause ∈ held, clause.Holds model record := by
  induction clauses generalizing n with
  | nil =>
    rw [Clause.AtLeastHold]
    constructor
    · rintro rfl
      exact ⟨[], List.Sublist.refl [], rfl, by simp⟩
    · rintro ⟨held, hsub, hlength, -⟩
      rw [List.sublist_nil.mp hsub] at hlength
      exact hlength.symm
  | cons clause rest ih =>
    rw [Clause.AtLeastHold, ih, ih]
    constructor
    · rintro (⟨hclause, held, hsub, hlength, hheld⟩ | ⟨held, hsub, hlength, hheld⟩)
      · cases n with
        | zero => exact ⟨held, hsub.cons clause, hlength, hheld⟩
        | succ n =>
          refine ⟨clause :: held, hsub.cons_cons clause, ?_, ?_⟩
          · rw [List.length_cons, hlength]
            rfl
          · intro other hother
            rcases List.mem_cons.mp hother with rfl | hmem
            · exact hclause
            · exact hheld other hmem
      · exact ⟨held, hsub.cons clause, hlength, hheld⟩
    · rintro ⟨held, hsub, hlength, hheld⟩
      cases hsub with
      | cons _ hrest => exact Or.inr ⟨held, hrest, hlength, hheld⟩
      | @cons_cons picked _ _ hrest =>
        refine Or.inl ⟨hheld clause List.mem_cons_self, picked, hrest, ?_, ?_⟩
        · rw [← hlength, List.length_cons, Nat.add_sub_cancel]
        · exact fun other hother => hheld other (List.mem_cons_of_mem clause hother)

/-- No alternative is needed where none is demanded. -/
theorem Clause.atLeastHold_zero (clauses : List Clause) :
    Clause.AtLeastHold model record clauses 0 :=
  (Clause.atLeastHold_iff clauses 0).mpr ⟨[], List.nil_sublist clauses, rfl, by simp⟩

/-- One alternative is enough where one is demanded. -/
theorem Clause.atLeastHold_one (clauses : List Clause) :
    Clause.AtLeastHold model record clauses 1 ↔
      ∃ clause ∈ clauses, clause.Holds model record := by
  rw [Clause.atLeastHold_iff]
  constructor
  · rintro ⟨held, hsub, hlength, hheld⟩
    obtain ⟨clause, rfl⟩ := List.length_eq_one_iff.mp hlength
    exact ⟨clause, hsub.mem List.mem_cons_self, hheld clause List.mem_cons_self⟩
  · rintro ⟨clause, hmem, hclause⟩
    refine ⟨[clause], List.singleton_sublist.mpr hmem, rfl, ?_⟩
    simpa using hclause

namespace BooleanQuery

/-- A query without a least number asks nothing of its alternatives. -/
theorem holds_iff_of_minimum_eq_none {query : BooleanQuery} (h : query.minimum = none) :
    query.Holds model record ↔
      (∀ clause ∈ query.filter, clause.Holds model record) ∧
        (∀ clause ∈ query.mustNot, ¬ clause.Holds model record) ∧
          ∀ clause ∈ query.must, clause.Holds model record := by
  obtain ⟨filter, mustNot, must, should, minimum⟩ := query
  obtain rfl : minimum = none := h
  rw [BooleanQuery.Holds, Clause.allHold_iff, Clause.noneHolds_iff, Clause.allHold_iff]
  have hshould : Clause.AtLeastHold model record should ((none : Option UInt32).getD 0).toNat :=
    Clause.atLeastHold_zero should
  simp only [hshould, and_true]

/-- Queries without a least number are appended into their conjunction. -/
theorem holds_append {a b : BooleanQuery} (ha : a.minimum = none) (hb : b.minimum = none) :
    (a.append b).Holds model record ↔ a.Holds model record ∧ b.Holds model record := by
  have hminimum : (a.append b).minimum = none := by
    rw [append, ha, hb]
    rfl
  rw [holds_iff_of_minimum_eq_none hminimum, holds_iff_of_minimum_eq_none ha,
    holds_iff_of_minimum_eq_none hb]
  simp only [append, List.forall_mem_append]
  constructor
  · rintro ⟨⟨hfa, hfb⟩, ⟨hna, hnb⟩, hma, hmb⟩
    exact ⟨⟨hfa, hna, hma⟩, hfb, hnb, hmb⟩
  · rintro ⟨⟨hfa, hna, hma⟩, hfb, hnb, hmb⟩
    exact ⟨⟨hfa, hfb⟩, ⟨hna, hnb⟩, hma, hmb⟩

/-- The empty query holds of every record. -/
theorem holds_empty : BooleanQuery.empty.Holds model record := by
  rw [holds_iff_of_minimum_eq_none rfl]
  simp [empty]

/-- Parts without a least number select together what each of them selects. -/
theorem holds_concat {queries : List BooleanQuery}
    (h : ∀ query ∈ queries, query.minimum = none) :
    (concat queries).Holds model record ↔ ∀ query ∈ queries, query.Holds model record := by
  induction queries with
  | nil => simpa using holds_empty
  | cons query rest ih =>
    have hrest : ∀ other ∈ rest, other.minimum = none :=
      fun other hother => h other (List.mem_cons_of_mem query hother)
    rw [concat_cons, holds_append (h query List.mem_cons_self) (minimum_concat_eq_none hrest),
      ih hrest, List.forall_mem_cons]

/-- A single clause demands what its list demands. -/
theorem holds_single (occurrence : Occurrence) (clause : Clause) :
    (single occurrence clause).Holds model record ↔
      occurrence.Demands (clause.Holds model record) := by
  have hminimum : (single occurrence clause).minimum = none := by
    cases occurrence <;> rfl
  rw [holds_iff_of_minimum_eq_none hminimum]
  cases occurrence <;> simp [single, add, empty, Occurrence.Demands]

/-- Alternatives demand of their list that one of them holds, unless there are none. -/
theorem holds_ofAlternatives (occurrence : Occurrence) (alternatives : List Clause) :
    (ofAlternatives occurrence alternatives).Holds model record ↔
      alternatives = [] ∨
        occurrence.Demands (∃ clause ∈ alternatives, clause.Holds model record) := by
  cases alternatives with
  | nil =>
    rw [ofAlternatives_nil]
    exact iff_of_true holds_empty (Or.inl rfl)
  | cons clause rest =>
    have hone : (Clause.group { should := clause :: rest, minimum := some 1 }).Holds model record ↔
        ∃ other ∈ clause :: rest, other.Holds model record := by
      rw [Clause.Holds, BooleanQuery.Holds]
      simp only [Clause.AllHold, Clause.NoneHolds, true_and]
      exact Clause.atLeastHold_one (clause :: rest)
    rw [ofAlternatives_cons, holds_single, propext hone]
    simp

end BooleanQuery

end FacetedSearch
