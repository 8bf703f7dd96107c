import FacetedSearch.Proofs.Facet.Form

/-!
# Where bounds come from

Only the ranges of numbers and of moments contribute bounds to a filter. A bound that stands there
is that of a set option, and every set option stands there with its bound.
-/

namespace FacetedSearch

namespace BooleanQuery

theorem mem_filter_single {occurrence : Occurrence} {clause other : Clause}
    (h : other ∈ (single occurrence clause).filter) : other = clause := by
  cases occurrence <;> simp_all [single, add, empty]

theorem mem_filter_ofAlternatives {occurrence : Occurrence} {alternatives : List Clause}
    {other : Clause} (h : other ∈ (ofAlternatives occurrence alternatives).filter) :
    ∃ group, other = .group group := by
  cases alternatives with
  | nil => simp [empty] at h
  | cons clause rest =>
    rw [ofAlternatives_cons] at h
    exact ⟨_, mem_filter_single h⟩

end BooleanQuery

theorem Condition.clause_ne_range (condition : Condition) (field : String) (bound : Bound)
    (value : Json) : .range field bound value ≠ condition.clause := by
  cases condition <;> simp [clause]

namespace Facet

theorem mem_boundClauses_iff {field field' : String} {value? : String → Option Json}
    {bounds : List (String × Bound)} {bound : Bound} {value : Json} :
    .range field bound value ∈ boundClauses field' value? bounds ↔
      field' = field ∧ ∃ name, (name, bound) ∈ bounds ∧ value? name = some value := by
  simp only [boundClauses, List.mem_filterMap, Option.map_eq_some_iff, Clause.range.injEq]
  constructor
  · rintro ⟨⟨name, bound⟩, hmem, value, hvalue, hfield, rfl, rfl⟩
    exact ⟨hfield, name, hmem, hvalue⟩
  · rintro ⟨hfield, name, hmem, hvalue⟩
    exact ⟨(name, bound), hmem, value, hvalue, hfield, rfl, rfl⟩

/-- The bounds on a field are those of the set options of its ranges. -/
theorem range_mem_contribution_iff {facet : Facet} {settings : Settings}
    {configuration : Configuration} {field : String} {bound : Bound} {value : Json} :
    .range field bound value ∈ (facet.contribution settings configuration).filter ↔
      (∃ greaterThan lessThan name, facet = .numericRange field greaterThan lessThan ∧
        (name, bound) ∈ numericBounds greaterThan lessThan ∧
          (settings.number name).map .number = some value) ∨
      ∃ after onOrAfter before onOrBefore name,
        facet = .dateRange field after onOrAfter before onOrBefore ∧
        (name, bound) ∈ dateBounds after onOrAfter before onOrBefore ∧
          (settings.moment name).map .string = some value := by
  cases facet with
  | numericRange field' greaterThan lessThan =>
    simp only [contribution, mem_boundClauses_iff]
    constructor
    · rintro ⟨rfl, name, hmem, hvalue⟩
      exact .inl ⟨greaterThan, lessThan, name, rfl, hmem, hvalue⟩
    · rintro (⟨greaterThan, lessThan, name, ⟨⟩, hmem, hvalue⟩ | ⟨_, _, _, _, _, ⟨⟩, _⟩)
      exact ⟨rfl, name, hmem, hvalue⟩
  | dateRange field' after onOrAfter before onOrBefore =>
    simp only [contribution, mem_boundClauses_iff]
    constructor
    · rintro ⟨rfl, name, hmem, hvalue⟩
      exact .inr ⟨after, onOrAfter, before, onOrBefore, name, rfl, hmem, hvalue⟩
    · rintro (⟨_, _, _, ⟨⟩, _⟩ | ⟨_, _, _, _, name, ⟨⟩, hmem, hvalue⟩)
      exact ⟨rfl, name, hmem, hvalue⟩
  | identity source shape =>
    refine iff_of_false (fun h => ?_) (by simp)
    rw [contribution] at h
    cases hclause : source.clause? settings with
    | none => simp [hclause, BooleanQuery.empty] at h
    | some clause =>
      rw [hclause] at h
      have hterms := IdentifierOption.isTerms_of_clause? hclause
      rw [← BooleanQuery.mem_filter_single h] at hterms
      cases hterms
  | anyOf sources =>
    refine iff_of_false (fun h => ?_) (by simp)
    obtain ⟨group, hgroup⟩ := BooleanQuery.mem_filter_ofAlternatives h
    simp at hgroup
  | exclusion source => simp [contribution]
  | flag option condition whenTrue =>
    refine iff_of_false (fun h => ?_) (by simp)
    rw [contribution] at h
    split at h
    · exact absurd (BooleanQuery.mem_filter_single h) (condition.clause_ne_range _ _ _)
    · exact absurd (BooleanQuery.mem_filter_single h) (condition.clause_ne_range _ _ _)
    · simp [BooleanQuery.empty] at h
  | switch option condition occurrence =>
    refine iff_of_false (fun h => ?_) (by simp)
    rw [contribution] at h
    split at h
    · exact absurd (BooleanQuery.mem_filter_single h) (condition.clause_ne_range _ _ _)
    · simp [BooleanQuery.empty] at h
  | sellerText box =>
    refine iff_of_false (fun h => ?_) (by simp)
    rw [contribution] at h
    split at h
    · rw [FreeText.sellerQuery] at h
      split at h
      · simp [BooleanQuery.empty] at h
      · split at h
        · simp [BooleanQuery.empty] at h
        · simpa using BooleanQuery.mem_filter_single h
        · obtain ⟨group, hgroup⟩ := BooleanQuery.mem_filter_ofAlternatives h
          simp at hgroup
    · simp [BooleanQuery.empty] at h
  | buyerText box =>
    refine iff_of_false (fun h => ?_) (by simp)
    rw [contribution] at h
    split at h
    · rw [FreeText.buyerQuery] at h
      split at h
      · simp [BooleanQuery.empty] at h
      · obtain ⟨group, hgroup⟩ := BooleanQuery.mem_filter_ofAlternatives h
        simp at hgroup
    · simp [BooleanQuery.empty] at h

end Facet

end FacetedSearch
