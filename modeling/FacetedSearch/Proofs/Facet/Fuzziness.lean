import FacetedSearch.Facet.Basic
import FacetedSearch.Proofs.Query.Fuzziness
import Mathlib.Data.List.Basic

/-!
# The fuzziness of contributions

The only part of a configuration that a contribution depends on is the fuzziness, and it stands
in the inexact matches of the search boxes and nowhere else. So the contribution under another
configuration is the same one with the other fuzziness.
-/

namespace FacetedSearch

/-- The clause of an option for identifiers has no inexact match. -/
theorem IdentifierOption.withFuzziness_of_clause? {source : IdentifierOption} {settings : Settings}
    {clause : Clause} (h : source.clause? settings = some clause) (fuzziness : String) :
    clause.withFuzziness fuzziness = clause := by
  simp only [clause?] at h
  split at h
  · simp at h
  · obtain rfl := Option.some.inj h
    rfl

/-- Conditions have no inexact match. -/
theorem Condition.withFuzziness_clause (condition : Condition) (fuzziness : String) :
    condition.clause.withFuzziness fuzziness = condition.clause := by
  cases condition <;> rfl

namespace FreeText

variable (first last : String)

theorem map_withFuzziness_sellerAlternatives (box : SellerBox) (text : List Char) :
    (sellerAlternatives box first text).map (·.withFuzziness last) =
      sellerAlternatives box last text := by
  simp only [sellerAlternatives, List.map_cons, List.map_append, Clause.withFuzziness]
  congr 2
  -- What follows the inexact match are exact values.
  · split
    · rw [List.map_map]
      rfl
    · rfl
  · split <;> rfl

/-- The fuzziness of a seller's query is that of the configuration. -/
theorem withFuzziness_sellerQuery (box : SellerBox) (text : String) :
    (sellerQuery box first text).withFuzziness last = sellerQuery box last text := by
  simp only [sellerQuery]
  split
  · rfl
  · split
    · rfl
    · rw [BooleanQuery.withFuzziness_single, Clause.withFuzziness]
    · rw [BooleanQuery.withFuzziness_ofAlternatives, map_withFuzziness_sellerAlternatives]

/-- The fuzziness of a buyer's query is that of the configuration. -/
theorem withFuzziness_buyerQuery (box : BuyerBox) (text : String) :
    (buyerQuery box first text).withFuzziness last = buyerQuery box last text := by
  simp only [buyerQuery]
  split
  · rfl
  · rw [BooleanQuery.withFuzziness_ofAlternatives]
    rfl

end FreeText

namespace Facet

/-- Bounds have no inexact match. -/
theorem map_withFuzziness_boundClauses (field : String) (value? : String → Option Json)
    (bounds : List (String × Bound)) (fuzziness : String) :
    (boundClauses field value? bounds).map (·.withFuzziness fuzziness) =
      boundClauses field value? bounds := by
  rw [boundClauses, List.map_filterMap]
  apply List.filterMap_congr
  intro bound _
  rw [Option.map_map]
  rfl

/-- The contribution under another configuration is the same but for its fuzziness. -/
theorem withFuzziness_contribution (facet : Facet) (settings : Settings) (a b : Configuration) :
    (facet.contribution settings a).withFuzziness b.fuzziness = facet.contribution settings b := by
  cases facet with
  | identity source shape =>
    rw [contribution, contribution]
    cases hclause : source.clause? settings with
    | none => rfl
    | some clause =>
      simp only [BooleanQuery.withFuzziness_single,
        IdentifierOption.withFuzziness_of_clause? hclause]
  | anyOf sources =>
    rw [contribution, contribution, BooleanQuery.withFuzziness_ofAlternatives, List.map_filterMap]
    congr 1
    apply List.filterMap_congr
    intro source _
    cases hclause : source.clause? settings with
    | none => rfl
    | some clause => rw [Option.map_some, IdentifierOption.withFuzziness_of_clause? hclause]
  | exclusion source =>
    simp only [contribution, BooleanQuery.withFuzziness, Clause.allWithFuzziness_eq_map,
      List.map_nil, List.map_map]
    rfl
  | flag option condition whenTrue =>
    rw [contribution, contribution]
    cases settings.flag option with
    | none => rfl
    | some value =>
      cases value <;>
        simp only [BooleanQuery.withFuzziness_single, condition.withFuzziness_clause]
  | switch option condition occurrence =>
    rw [contribution, contribution]
    split
    · rw [BooleanQuery.withFuzziness_single, condition.withFuzziness_clause]
    · rfl
  | numericRange field greaterThan lessThan =>
    simp only [contribution, BooleanQuery.withFuzziness, Clause.allWithFuzziness_eq_map,
      List.map_nil, map_withFuzziness_boundClauses]
  | dateRange field after onOrAfter before onOrBefore =>
    simp only [contribution, BooleanQuery.withFuzziness, Clause.allWithFuzziness_eq_map,
      List.map_nil, map_withFuzziness_boundClauses]
  | sellerText box =>
    rw [contribution, contribution]
    cases settings.text box.option with
    | none => rfl
    | some text => exact FreeText.withFuzziness_sellerQuery a.fuzziness b.fuzziness box text
  | buyerText box =>
    rw [contribution, contribution]
    cases settings.text box.option with
    | none => rfl
    | some text => exact FreeText.withFuzziness_buyerQuery a.fuzziness b.fuzziness box text

end Facet

end FacetedSearch
