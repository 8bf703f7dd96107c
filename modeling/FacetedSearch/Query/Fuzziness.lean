import FacetedSearch.Query.Basic

/-!
# Queries with another fuzziness

How far a text may be from the query of an inexact match is the one thing in a query that the
caller does not determine. It can be replaced in every inexact match at once, those in groups
included, so that two queries can be compared but for it.
-/

namespace FacetedSearch

mutual

/-- The clause with a given fuzziness in each of its inexact matches. -/
def Clause.withFuzziness (fuzziness : String) : Clause → Clause
  | .term field value => .term field value
  | .terms field values => .terms field values
  | .present field => .present field
  | .range field bound value => .range field bound value
  | .words field query operator => .words field query operator
  | .fuzzy fields query _ => .fuzzy fields query fuzziness
  | .group query => .group (query.withFuzziness fuzziness)

/-- The clauses of a list with a given fuzziness. -/
def Clause.allWithFuzziness (fuzziness : String) : List Clause → List Clause
  | [] => []
  | clause :: rest => clause.withFuzziness fuzziness :: Clause.allWithFuzziness fuzziness rest

/-- The query with a given fuzziness in each of its inexact matches, at any depth. -/
def BooleanQuery.withFuzziness (fuzziness : String) : BooleanQuery → BooleanQuery
  | ⟨filter, mustNot, must, should, minimum⟩ =>
    { filter := Clause.allWithFuzziness fuzziness filter
      mustNot := Clause.allWithFuzziness fuzziness mustNot
      must := Clause.allWithFuzziness fuzziness must
      should := Clause.allWithFuzziness fuzziness should
      minimum }

end

/-- The fuzziness of a list is replaced clause by clause. -/
theorem Clause.allWithFuzziness_eq_map (fuzziness : String) (clauses : List Clause) :
    Clause.allWithFuzziness fuzziness clauses = clauses.map (·.withFuzziness fuzziness) := by
  induction clauses with
  | nil => rfl
  | cons clause rest ih => rw [Clause.allWithFuzziness, ih, List.map_cons]

namespace BooleanQuery

/-- Each list keeps its clauses but for their fuzziness. -/
@[simp] theorem clauses_withFuzziness (fuzziness : String) (query : BooleanQuery)
    (occurrence : Occurrence) :
    (query.withFuzziness fuzziness).clauses occurrence =
      (query.clauses occurrence).map (·.withFuzziness fuzziness) := by
  obtain ⟨filter, mustNot, must, should, minimum⟩ := query
  cases occurrence <;> exact Clause.allWithFuzziness_eq_map fuzziness _

/-- The least number does not change. -/
@[simp] theorem minimum_withFuzziness (fuzziness : String) (query : BooleanQuery) :
    (query.withFuzziness fuzziness).minimum = query.minimum := by
  obtain ⟨filter, mustNot, must, should, minimum⟩ := query
  rfl

end BooleanQuery

end FacetedSearch
