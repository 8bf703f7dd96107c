import FacetedSearch.Facet.Basic
import FacetedSearch.Proofs.Query.Building

/-!
# Contributions in groups

A query is made of contributions by appending, and appending loses nothing: every clause stays in
its list and in its place, and the least number is the greatest that was brought. So contributions
may be appended in any groups, and those that ask for nothing may be left out.
-/

namespace FacetedSearch

/-- Whether a facet contributes something: a clause or a least number. -/
def Facet.isBusy (settings : Settings) (configuration : Configuration) (facet : Facet) : Bool :=
  !(facet.contribution settings configuration).isIdle

/-- Only the facets that contribute something matter for the appended contributions. -/
theorem Facet.concat_filter_isBusy (settings : Settings) (configuration : Configuration)
    (facets : List Facet) :
    BooleanQuery.concat ((facets.filter (isBusy settings configuration)).map
        (·.contribution settings configuration)) =
      .concat (facets.map (·.contribution settings configuration)) := by
  rw [← BooleanQuery.concat_filter_not_isIdle (facets.map _), List.filter_map]
  rfl

/--
Appending loses nothing. It is associative, the empty query changes nothing on either side, and
sizes add up. After any run of added clauses and appended queries each list is what the steps
added to it, in their order, and is rendered so, with a member if it is not empty; the least number
is the greatest that a query brought, and there is one if any query brought one. So contributions
that are appended in groups of any kind, with some that ask for nothing left out or put in, make
the same query.
-/
theorem appending_loses_nothing :
    (∀ a b c : BooleanQuery, (a.append b).append c = a.append (b.append c)) ∧
    (∀ query : BooleanQuery,
      BooleanQuery.empty.append query = query ∧ query.append .empty = query) ∧
    (∀ a b : BooleanQuery, (a.append b).size = a.size + b.size) ∧
    (∀ (steps : List BooleanQuery.Step) (occurrence : Occurrence),
      (BooleanQuery.run steps).clauses occurrence = steps.flatMap (·.added occurrence) ∧
      ∀ value, (BooleanQuery.run steps).toJson.member? occurrence.name = some value ↔
        (BooleanQuery.run steps).clauses occurrence ≠ [] ∧
          value = .array (steps.flatMap fun step => (step.added occurrence).map Clause.toJson)) ∧
    (∀ steps : List BooleanQuery.Step,
      ((BooleanQuery.run steps).minimum = none ↔ ∀ step ∈ steps, step.minimum = none) ∧
      ∀ n, (BooleanQuery.run steps).minimum = some n ↔
        (∃ step ∈ steps, step.minimum = some n) ∧
          ∀ step ∈ steps, ∀ m ∈ step.minimum, m ≤ n) ∧
    ∀ (settings : Settings) (configuration : Configuration) (grouping : Grouping Facet)
        (facets : List Facet),
      grouping.parts.filter (Facet.isBusy settings configuration) =
        facets.filter (Facet.isBusy settings configuration) →
      grouping.query (·.contribution settings configuration) =
        .concat (facets.map (·.contribution settings configuration)) := by
  refine ⟨BooleanQuery.append_assoc, ?_, BooleanQuery.size_append, ?_, ?_, ?_⟩
  · intro query
    exact ⟨BooleanQuery.empty_append query, BooleanQuery.append_empty query⟩
  · intro steps occurrence
    exact ⟨BooleanQuery.clauses_run steps occurrence,
      fun value => BooleanQuery.member?_toJson_run_eq_some_iff⟩
  · intro steps
    exact ⟨BooleanQuery.minimum_run_eq_none_iff, fun n => BooleanQuery.minimum_run_eq_some_iff⟩
  · intro settings configuration grouping facets hbusy
    rw [Grouping.query_eq_concat, ← Facet.concat_filter_isBusy, hbusy, Facet.concat_filter_isBusy]

/--
With one flag set, another one not, and a switch that is off, the two that ask for nothing may be
left out or put into a group of their own.
-/
theorem idle_facets_left_out :
    let settings : Settings := ⟨NameMap.ofList
      [("archived", .flag (some true)), ("refunded", .flag none), ("exclude_giftees", .switch false)]⟩
    let archived : Facet := .flag "archived" (.isTruth "is_archived" true) .filter
    let refunded : Facet := .flag "refunded" (.isText "flags" "refunded") .filter
    let giftees : Facet := .switch "exclude_giftees" (.present "gift_giver_purchase_id") .mustNot
    let grouping : Grouping Facet :=
      .both (.both (.part refunded) (.part giftees)) (.both .nothing (.part archived))
    grouping.parts.filter (Facet.isBusy settings {}) =
        [archived].filter (Facet.isBusy settings {}) ∧
      grouping.query (·.contribution settings {}) =
        .concat ([archived].map (·.contribution settings {})) := by
  intro settings archived refunded giftees grouping
  obtain ⟨-, -, -, -, -, hgrouping⟩ := appending_loses_nothing
  have hbusy : grouping.parts.filter (Facet.isBusy settings {}) =
      [archived].filter (Facet.isBusy settings {}) := by decide
  exact ⟨hbusy, hgrouping settings {} grouping [archived] hbusy⟩

end FacetedSearch
