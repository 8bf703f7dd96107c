import FacetedSearch.Proofs.Query.Rendering
import FacetedSearch.Request
import Mathlib.Tactic.SplitIfs

/-!
# Bodies lose nothing

The query and the controls of a request are known from its body. Each slot of the controls has
a name of its own, so a slot that holds null is told apart from one that was left unfilled.
-/

namespace FacetedSearch

namespace Request

/-- What stands under each name in the body of a request. -/
theorem member?_body (request : Request) (name : String) :
    request.body.member? name =
      if name = "_source" then request.controls.fields
      else if name = "aggs" then request.controls.aggregations
      else if name = "from" then request.controls.offset.map .ofUInt64
      else if name = "query" then some (.field "bool" request.query.toJson)
      else if name = "size" then request.controls.limit.map .ofUInt64
      else if name = "sort" then request.controls.sort
      else if name = "track_total_hits" then request.controls.trackTotalHits.map .bool
      else none := by
  have hmembers : request.body.member? name = request.members.get? name := rfl
  rw [hmembers, members, Controls.writeInto]
  simp only [NameMap.get?_insertSome, NameMap.get?_insert, NameMap.get?_empty]
  by_cases hname : name ∈ ["_source", "aggs", "from", "query", "size", "sort", "track_total_hits"]
  · simp only [List.mem_cons, List.not_mem_nil, or_false] at hname
    rcases hname with rfl | rfl | rfl | rfl | rfl | rfl | rfl <;> simp
  · simp only [List.mem_cons, List.not_mem_nil, or_false, not_or] at hname
    simp [hname]

/-- Requests with the same body have the same query. -/
theorem query_eq_of_body {a b : Request} (h : a.body = b.body) : a.query = b.query := by
  have hmember := congrArg (Json.member? · "query") h
  have hquery : a.query.toJson = b.query.toJson := by
    simpa [member?_body, Json.field] using hmember
  exact BooleanQuery.eq_of_toJson _ _ hquery

/-- Requests with the same body have the same controls. -/
theorem controls_eq_of_body {a b : Request} (h : a.body = b.body) : a.controls = b.controls := by
  have hmember (name : String) : a.body.member? name = b.body.member? name := by rw [h]
  have hfields : a.controls.fields = b.controls.fields := by
    simpa [member?_body] using hmember "_source"
  have haggregations : a.controls.aggregations = b.controls.aggregations := by
    simpa [member?_body] using hmember "aggs"
  have hoffset : a.controls.offset.map Json.ofUInt64 = b.controls.offset.map .ofUInt64 := by
    simpa [member?_body] using hmember "from"
  have hlimit : a.controls.limit.map Json.ofUInt64 = b.controls.limit.map .ofUInt64 := by
    simpa [member?_body] using hmember "size"
  have hsort : a.controls.sort = b.controls.sort := by
    simpa [member?_body] using hmember "sort"
  have htotal : a.controls.trackTotalHits.map Json.bool = b.controls.trackTotalHits.map .bool := by
    simpa [member?_body] using hmember "track_total_hits"
  cases ha : a.controls
  cases hb : b.controls
  simp only [ha, hb] at *
  rw [Controls.mk.injEq]
  exact ⟨Option.map_injective Json.ofUInt64_injective hoffset,
    Option.map_injective Json.ofUInt64_injective hlimit, hsort, hfields, haggregations,
    Option.map_injective (fun _ _ => Json.bool.inj) htotal⟩

/-- The values in the query of a request and in the slots of its controls are ordered. -/
structure ValuesOrdered (request : Request) : Prop where
  query : request.query.ValuesOrdered
  sort : ∀ value, request.controls.sort = some value → value.Ordered
  fields : ∀ value, request.controls.fields = some value → value.Ordered
  aggregations : ∀ value, request.controls.aggregations = some value → value.Ordered

/-- The body of a request of ordered values is written in order. -/
theorem ordered_body {request : Request} (h : request.ValuesOrdered) : request.body.Ordered := by
  apply Json.ordered_entries
  intro name value hvalue
  have hmember : request.body.member? name = some value := hvalue
  rw [member?_body] at hmember
  split_ifs at hmember
  · exact h.fields value hmember
  · exact h.aggregations value hmember
  · obtain ⟨offset, -, rfl⟩ := Option.map_eq_some_iff.mp hmember
    trivial
  · obtain rfl := Option.some.inj hmember
    exact Json.ordered_field (BooleanQuery.ordered_toJson request.query h.query)
  · obtain ⟨limit, -, rfl⟩ := Option.map_eq_some_iff.mp hmember
    trivial
  · exact h.sort value hmember
  · obtain ⟨total, -, rfl⟩ := Option.map_eq_some_iff.mp hmember
    trivial

end Request

/--
Rendering loses nothing: clauses, queries of any depth and requests are known from their JSON,
and what is written of values with ordered members has ordered members, so that no two lists of
members stand for the same object.
-/
theorem rendering_loses_nothing :
    (∀ a b : Clause, a.toJson = b.toJson ↔ a = b) ∧
      (∀ a b : BooleanQuery, a.toJson = b.toJson ↔ a = b) ∧
      (∀ a b : Request, a.collection = b.collection → a.index = b.index →
        (a.body = b.body ↔ a.query = b.query ∧ a.controls = b.controls)) ∧
      (∀ clause : Clause, clause.ValuesOrdered → clause.toJson.Ordered) ∧
      (∀ query : BooleanQuery, query.ValuesOrdered → query.toJson.Ordered) ∧
      ∀ request : Request, request.ValuesOrdered → request.body.Ordered := by
  refine ⟨fun a b => ⟨Clause.eq_of_toJson a b, fun h => by rw [h]⟩,
    fun a b => ⟨BooleanQuery.eq_of_toJson a b, fun h => by rw [h]⟩, ?_,
    Clause.ordered_toJson, BooleanQuery.ordered_toJson, fun _ => Request.ordered_body⟩
  intro a b hcollection hindex
  constructor
  · intro h
    exact ⟨Request.query_eq_of_body h, Request.controls_eq_of_body h⟩
  · rintro ⟨hquery, hcontrols⟩
    have hrequest : a = b := by
      cases a
      cases b
      simp_all
    rw [hrequest]

/--
A sort order that is null is told apart from one that was left out, and a term on an object is
told apart from the same term on the object without its last member.
-/
theorem null_sort_is_rendered :
    let clause := Clause.term "flags" (.object [("a", .null), ("b", .bool true)])
    let query := BooleanQuery.single .mustNot clause
    let request (sort : Option Json) : Request :=
      { collection := .messages, index := "commerce_messages", query, controls := { sort } }
    (request none).body ≠ (request (some .null)).body ∧
      clause.toJson ≠ (Clause.term "flags" (.object [("a", .null)])).toJson ∧
      clause.toJson.Ordered ∧ query.toJson.Ordered ∧ (request (some .null)).body.Ordered := by
  intro clause query request
  obtain ⟨hclauses, -, hbodies, hclause, hquery, hbody⟩ := rendering_loses_nothing
  have hnames : ["a", "b"].Pairwise (· < ·) := by decide
  have hvalues : clause.ValuesOrdered := ⟨hnames, trivial, trivial, trivial⟩
  have hqueryValues : query.ValuesOrdered := ⟨trivial, ⟨hvalues, trivial⟩, trivial, trivial⟩
  have hrequestValues : (request (some .null)).ValuesOrdered := by
    constructor
    · exact hqueryValues
    · rintro value ⟨⟩
      trivial
    · rintro value ⟨⟩
    · rintro value ⟨⟩
  refine ⟨?_, ?_, hclause clause hvalues, hquery query hqueryValues, hbody _ hrequestValues⟩
  · intro h
    have hcontrols := ((hbodies (request none) (request (some .null)) rfl rfl).mp h).2
    have hsort : none = some Json.null := congrArg Controls.sort hcontrols
    simp at hsort
  · intro h
    have hsame := (hclauses _ _).mp h
    simp [clause] at hsame

end FacetedSearch
