import FacetedSearch.Query.Basic

/-!
# Appended queries

Appending is associative, so a query made of several parts can be split at any
of them. Its lists are the lists of the parts in order, and it has a least number only if
one of the parts has.
-/

namespace FacetedSearch.BooleanQuery

/-- Queries with the same lists and the same least number are equal. -/
theorem ext_clauses {a b : BooleanQuery}
    (hclauses : ∀ occurrence, a.clauses occurrence = b.clauses occurrence)
    (hminimum : a.minimum = b.minimum) : a = b := by
  obtain ⟨filter, mustNot, must, should, minimum⟩ := a
  obtain ⟨filter', mustNot', must', should', minimum'⟩ := b
  have hfilter : filter = filter' := hclauses .filter
  have hmustNot : mustNot = mustNot' := hclauses .mustNot
  have hmust : must = must' := hclauses .must
  have hshould : should = should' := hclauses .should
  have hmin : minimum = minimum' := hminimum
  rw [hfilter, hmustNot, hmust, hshould, hmin]

/-- An added clause leaves the least number as it is. -/
@[simp] theorem minimum_add (query : BooleanQuery) (occurrence : Occurrence) (clause : Clause) :
    (query.add occurrence clause).minimum = query.minimum := by
  cases occurrence <;> rfl

theorem max_eq_ite (x y : UInt32) : max x y = if x ≤ y then y else x := rfl

/-- The greater of three least numbers does not depend on which two are compared first. -/
theorem greatestMinimum_assoc (a b c : Option UInt32) :
    greatestMinimum (greatestMinimum a b) c = greatestMinimum a (greatestMinimum b c) := by
  cases a with
  | none => rfl
  | some m =>
    cases b with
    | none => cases c <;> rfl
    | some n =>
      cases c with
      | none => rfl
      | some k =>
        simp only [greatestMinimum, Option.some.injEq, max_eq_ite]
        grind

theorem append_assoc (a b c : BooleanQuery) :
    (a.append b).append c = a.append (b.append c) := by
  apply ext_clauses
  · intro occurrence
    simp only [clauses_append, List.append_assoc]
  · exact greatestMinimum_assoc a.minimum b.minimum c.minimum

/-! ### Several queries -/

private theorem foldl_append_eq (start : BooleanQuery) (queries : List BooleanQuery) :
    queries.foldl append start = start.append (concat queries) := by
  induction queries generalizing start with
  | nil => exact (append_empty start).symm
  | cons query rest ih =>
    have hrest : concat (query :: rest) = query.append (concat rest) := by
      rw [concat, List.foldl_cons, empty_append, ih]
    rw [List.foldl_cons, ih, append_assoc, hrest]

@[simp] theorem concat_nil : concat [] = empty := rfl

@[simp] theorem concat_cons (query : BooleanQuery) (rest : List BooleanQuery) :
    concat (query :: rest) = query.append (concat rest) := by
  rw [concat, List.foldl_cons, empty_append, foldl_append_eq]

/-- Queries may be appended in two groups. -/
theorem concat_append (queries queries' : List BooleanQuery) :
    concat (queries ++ queries') = (concat queries).append (concat queries') := by
  rw [concat, List.foldl_append, foldl_append_eq]
  rfl

/-- A list of a query made of several parts has the clauses of the parts, part by part. -/
theorem clauses_concat (queries : List BooleanQuery) (occurrence : Occurrence) :
    (concat queries).clauses occurrence = queries.flatMap (·.clauses occurrence) := by
  induction queries with
  | nil => cases occurrence <;> rfl
  | cons query rest ih => rw [concat_cons, clauses_append, ih, List.flatMap_cons]

/-- Parts without a least number make a query without one. -/
theorem minimum_concat_eq_none {queries : List BooleanQuery}
    (h : ∀ query ∈ queries, query.minimum = none) : (concat queries).minimum = none := by
  induction queries with
  | nil => rfl
  | cons query rest ih =>
    have hquery : query.minimum = none := h query List.mem_cons_self
    have hrest : (concat rest).minimum = none :=
      ih fun other hother => h other (List.mem_cons_of_mem query hother)
    rw [concat_cons, append, hquery, hrest]
    rfl

/-! ### Alternatives -/

@[simp] theorem ofAlternatives_nil (occurrence : Occurrence) :
    ofAlternatives occurrence [] = empty := rfl

/-- Alternatives are demanded in a group of their own. -/
theorem ofAlternatives_cons (occurrence : Occurrence) (clause : Clause) (rest : List Clause) :
    ofAlternatives occurrence (clause :: rest) =
      single occurrence (.group { should := clause :: rest, minimum := some 1 }) := rfl

end FacetedSearch.BooleanQuery
