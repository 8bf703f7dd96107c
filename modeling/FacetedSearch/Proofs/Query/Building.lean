import FacetedSearch.Proofs.Query.Rendering
import FacetedSearch.Proofs.Query.WellFormed
import FacetedSearch.Query.Building
import Mathlib.Data.List.Induction

/-!
# What building a query keeps

Each step appends to every list what it adds to it, and nothing else happens to the lists, so
after any run a list is what the steps added to it, in their order. The least number after a run
is the greatest that a step brought. Since appending is associative with the empty query as its
unit, neither groups nor idle parts make a difference.
-/

namespace FacetedSearch

universe u

namespace BooleanQuery

/-! ### The greatest least number -/

/-- The greater of two least numbers is one of them. -/
theorem eq_some_of_greatestMinimum {a b : Option UInt32} {n : UInt32}
    (h : greatestMinimum a b = some n) : a = some n ∨ b = some n := by
  cases a with
  | none => exact .inr h
  | some x =>
    cases b with
    | none => exact .inl h
    | some y =>
      rw [greatestMinimum, max_eq_ite] at h
      split at h
      · exact .inr h
      · exact .inl h

/-- The greater of two least numbers is at most what both of them are at most. -/
theorem greatestMinimum_le_iff {a b : Option UInt32} {n : UInt32} :
    (∀ m ∈ greatestMinimum a b, m ≤ n) ↔ (∀ m ∈ a, m ≤ n) ∧ ∀ m ∈ b, m ≤ n := by
  cases a with
  | none => simp [greatestMinimum]
  | some x =>
    cases b with
    | none => simp [greatestMinimum]
    | some y =>
      simp only [greatestMinimum, max_eq_ite, Option.mem_some_iff, forall_eq']
      grind

/-- There is no greater of two least numbers only if there is neither. -/
theorem greatestMinimum_eq_none_iff {a b : Option UInt32} :
    greatestMinimum a b = none ↔ a = none ∧ b = none := by
  cases a <;> cases b <;> simp [greatestMinimum]

/-! ### One step -/

variable (query : BooleanQuery) (step : Step)

/-- A step adds to the end of each list, and takes nothing from any. -/
theorem clauses_apply (occurrence : Occurrence) :
    (step.apply query).clauses occurrence = query.clauses occurrence ++ step.added occurrence := by
  cases step with
  | add added clause => exact clauses_add query added occurrence clause
  | append other => exact clauses_append query other occurrence

/-- A step raises the least number to the one that it brings. -/
theorem minimum_apply :
    (step.apply query).minimum = greatestMinimum query.minimum step.minimum := by
  cases step with
  | add added clause =>
    rw [Step.apply, minimum_add, Step.minimum]
    cases query.minimum <;> rfl
  | append other => rfl

/-! ### Runs -/

variable {steps : List Step}

theorem run_concat (steps : List Step) (step : Step) :
    run (steps ++ [step]) = step.apply (run steps) := by
  rw [run, List.foldl_append]
  rfl

/-- After a run each list is what the steps added to it, in their order. -/
theorem clauses_run (steps : List Step) (occurrence : Occurrence) :
    (run steps).clauses occurrence = steps.flatMap (·.added occurrence) := by
  induction steps using List.reverseRecOn with
  | nil => cases occurrence <;> rfl
  | append_singleton steps last ih =>
    rw [run_concat, clauses_apply, ih, List.flatMap_append, List.flatMap_singleton]

/-- After a run there is a least number if some step brought one. -/
theorem minimum_run_eq_none_iff :
    (run steps).minimum = none ↔ ∀ step ∈ steps, step.minimum = none := by
  induction steps using List.reverseRecOn with
  | nil => simp [run, empty]
  | append_singleton steps last ih =>
    rw [run_concat, minimum_apply, greatestMinimum_eq_none_iff, ih, List.forall_mem_append,
      List.forall_mem_singleton]

/-- The least number after a run is one that a step brought. -/
theorem exists_minimum_of_run {n : UInt32} (h : (run steps).minimum = some n) :
    ∃ step ∈ steps, step.minimum = some n := by
  induction steps using List.reverseRecOn with
  | nil => exact nomatch h
  | append_singleton steps last ih =>
    rw [run_concat, minimum_apply] at h
    rcases eq_some_of_greatestMinimum h with hearlier | hlast
    · obtain ⟨step, hstep, hminimum⟩ := ih hearlier
      exact ⟨step, List.mem_append_left _ hstep, hminimum⟩
    · exact ⟨last, List.mem_append_right _ (List.mem_singleton_self last), hlast⟩

/-- The least number after a run is at most what all are that the steps brought. -/
theorem minimum_run_le_iff {n : UInt32} :
    (∀ m ∈ (run steps).minimum, m ≤ n) ↔ ∀ step ∈ steps, ∀ m ∈ step.minimum, m ≤ n := by
  induction steps using List.reverseRecOn with
  | nil => simp [run, empty]
  | append_singleton steps last ih =>
    rw [run_concat, minimum_apply, greatestMinimum_le_iff, ih, List.forall_mem_append,
      List.forall_mem_singleton]

/-- The least number after a run is the greatest that a step brought. -/
theorem minimum_run_eq_some_iff {n : UInt32} :
    (run steps).minimum = some n ↔
      (∃ step ∈ steps, step.minimum = some n) ∧ ∀ step ∈ steps, ∀ m ∈ step.minimum, m ≤ n := by
  constructor
  · intro hrun
    refine ⟨exists_minimum_of_run hrun, minimum_run_le_iff.mp fun m hm => ?_⟩
    obtain rfl := Option.some.inj (hrun.symm.trans hm)
    exact UInt32.le_refl n
  · rintro ⟨⟨step, hstep, hminimum⟩, hgreatest⟩
    cases hrun : (run steps).minimum with
    | none => simp [minimum_run_eq_none_iff.mp hrun step hstep] at hminimum
    | some k =>
      have hle : k ≤ n := minimum_run_le_iff.mpr hgreatest k hrun
      have hge : n ≤ k := by
        have hbound : ∀ m ∈ (run steps).minimum, m ≤ k := by simp [hrun]
        exact minimum_run_le_iff.mp hbound step hstep n hminimum
      rw [UInt32.le_antisymm hle hge]

/-- A list that is not empty is rendered as the array of all that the steps added to it. -/
theorem member?_toJson_run_eq_some_iff {occurrence : Occurrence} {value : Json} :
    (run steps).toJson.member? occurrence.name = some value ↔
      (run steps).clauses occurrence ≠ [] ∧
        value = .array (steps.flatMap fun step => (step.added occurrence).map Clause.toJson) := by
  rw [member?_toJson, Json.arrayOf?_eq_some_iff, Clause.listToJson_eq_map, ne_eq,
    List.map_eq_nil_iff, clauses_run, List.map_flatMap]

/-! ### Idle parts -/

theorem isIdle_iff : query.isIdle = true ↔ query = empty := by
  obtain ⟨filter, mustNot, must, should, minimum⟩ := query
  simp only [isIdle, isEmpty, size, empty, Bool.and_eq_true, beq_iff_eq, Nat.add_eq_zero_iff,
    List.length_eq_zero_iff, Option.isNone_iff_eq_none, and_assoc, mk.injEq]

/-- Idle queries may be left out. -/
theorem concat_filter_not_isIdle (queries : List BooleanQuery) :
    concat (queries.filter fun query => !query.isIdle) = concat queries := by
  induction queries with
  | nil => rfl
  | cons query rest ih =>
    cases hidle : query.isIdle with
    | true =>
      obtain rfl := (isIdle_iff query).mp hidle
      rw [List.filter_cons_of_neg (by simp [hidle]), ih, concat_cons, empty_append]
    | false => rw [List.filter_cons_of_pos (by simp [hidle]), concat_cons, concat_cons, ih]

end BooleanQuery

/-! ### Groups -/

namespace Grouping

variable {α : Type u}

/-- Groups make no difference: their query is that of the parts one after the other. -/
theorem query_eq_concat (queryOf : α → BooleanQuery) (grouping : Grouping α) :
    grouping.query queryOf = .concat (grouping.parts.map queryOf) := by
  induction grouping with
  | nothing => rfl
  | part x =>
    rw [query, parts, List.map_singleton, BooleanQuery.concat_cons, BooleanQuery.concat_nil,
      BooleanQuery.append_empty]
  | both first later hfirst hlater =>
    rw [query, parts, List.map_append, BooleanQuery.concat_append, hfirst, hlater]

end Grouping

end FacetedSearch
