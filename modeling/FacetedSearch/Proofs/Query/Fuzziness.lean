import FacetedSearch.Proofs.Query.Appending
import FacetedSearch.Query.Fuzziness

/-!
# Replacing the fuzziness of queries

The fuzziness that was given last counts, and clauses without inexact matches do not change. Since
lists and least numbers stay in their places, the fuzziness of a query made of several parts is
replaced part by part.
-/

namespace FacetedSearch

mutual

/-- A fuzziness that is replaced makes no difference. -/
theorem Clause.withFuzziness_withFuzziness (first last : String) : ∀ clause : Clause,
    (clause.withFuzziness first).withFuzziness last = clause.withFuzziness last
  | .term _ _ => rfl
  | .terms _ _ => rfl
  | .present _ => rfl
  | .range _ _ _ => rfl
  | .words _ _ _ => rfl
  | .fuzzy _ _ _ => rfl
  | .group query => by
    simp only [Clause.withFuzziness, BooleanQuery.withFuzziness_withFuzziness first last query]

/-- A fuzziness that is replaced makes no difference in a list. -/
theorem Clause.allWithFuzziness_allWithFuzziness (first last : String) : ∀ clauses : List Clause,
    Clause.allWithFuzziness last (Clause.allWithFuzziness first clauses) =
      Clause.allWithFuzziness last clauses
  | [] => rfl
  | clause :: rest => by
    simp only [Clause.allWithFuzziness, Clause.withFuzziness_withFuzziness first last clause,
      Clause.allWithFuzziness_allWithFuzziness first last rest]

/-- A fuzziness that is replaced makes no difference in a query. -/
theorem BooleanQuery.withFuzziness_withFuzziness (first last : String) : ∀ query : BooleanQuery,
    (query.withFuzziness first).withFuzziness last = query.withFuzziness last
  | ⟨filter, mustNot, must, should, _⟩ => by
    simp only [BooleanQuery.withFuzziness,
      Clause.allWithFuzziness_allWithFuzziness first last filter,
      Clause.allWithFuzziness_allWithFuzziness first last mustNot,
      Clause.allWithFuzziness_allWithFuzziness first last must,
      Clause.allWithFuzziness_allWithFuzziness first last should]

end

namespace BooleanQuery

variable (fuzziness : String)

/-- The fuzziness of an added clause is replaced with that of the others. -/
theorem withFuzziness_add (query : BooleanQuery) (occurrence : Occurrence) (clause : Clause) :
    (query.add occurrence clause).withFuzziness fuzziness =
      (query.withFuzziness fuzziness).add occurrence (clause.withFuzziness fuzziness) := by
  apply ext_clauses
  · intro other
    rw [clauses_withFuzziness, clauses_add, clauses_add, clauses_withFuzziness, List.map_append]
    split <;> rfl
  · simp only [minimum_withFuzziness, minimum_add]

@[simp] theorem withFuzziness_single (occurrence : Occurrence) (clause : Clause) :
    (single occurrence clause).withFuzziness fuzziness =
      single occurrence (clause.withFuzziness fuzziness) :=
  withFuzziness_add fuzziness empty occurrence clause

/-- The fuzziness of alternatives is replaced within their group. -/
@[simp] theorem withFuzziness_ofAlternatives (occurrence : Occurrence)
    (alternatives : List Clause) :
    (ofAlternatives occurrence alternatives).withFuzziness fuzziness =
      ofAlternatives occurrence (alternatives.map (·.withFuzziness fuzziness)) := by
  cases alternatives with
  | nil => rfl
  | cons clause rest =>
    rw [List.map_cons, ofAlternatives_cons, ofAlternatives_cons, withFuzziness_single]
    simp only [Clause.withFuzziness, withFuzziness, Clause.allWithFuzziness,
      Clause.allWithFuzziness_eq_map]

/-- The fuzziness of appended queries is replaced in both. -/
theorem withFuzziness_append (a b : BooleanQuery) :
    (a.append b).withFuzziness fuzziness =
      (a.withFuzziness fuzziness).append (b.withFuzziness fuzziness) := by
  apply ext_clauses
  · intro occurrence
    simp only [clauses_withFuzziness, clauses_append, List.map_append]
  · simp only [append, minimum_withFuzziness]

/-- The fuzziness of a query made of several parts is replaced part by part. -/
theorem withFuzziness_concat (queries : List BooleanQuery) :
    (concat queries).withFuzziness fuzziness = concat (queries.map (·.withFuzziness fuzziness)) := by
  induction queries with
  | nil => rfl
  | cons query rest ih => rw [concat_cons, withFuzziness_append, ih, List.map_cons, concat_cons]

end BooleanQuery

end FacetedSearch
