import FacetedSearch.Proofs.Compile.Body
import FacetedSearch.Proofs.Compile.Independence

/-!
# Bodies for counting

The body that only counts the matches is what is left of the body of the request once paging, order
and fields are taken out and the number of results and the exact total are set. What is left is the
query and the aggregations. So it does not depend on what the caller says about paging, order and
fields, nor on the total the caller asks for.
-/

namespace FacetedSearch

/-- The options for what is shown of the results and in which order, and for the total. -/
def Controls.presentation : List String :=
  ["offset", "limit", "sort", "fields", "track_total_hits"]

namespace Request

/-- What stands under each name in the body for counting. -/
theorem member?_countingBody (request : Request) (name : String) :
    request.countingBody.member? name =
      if name = "size" then some (.ofUInt64 0)
      else if name = "track_total_hits" then some (.bool true)
      else if name = "query" ∨ name = "aggs" then request.body.member? name
      else none := by
  simp only [countingBody, Json.member?_setMember, Json.member?_removeMember, member?_body]
  by_cases hname : name ∈ ["_source", "aggs", "from", "query", "size", "sort", "track_total_hits"]
  · simp only [List.mem_cons, List.not_mem_nil, or_false] at hname
    rcases hname with rfl | rfl | rfl | rfl | rfl | rfl | rfl <;> simp
  · simp only [List.mem_cons, List.not_mem_nil, or_false, not_or] at hname
    simp [hname]

/--
The body for counting is the aggregations, if the caller asks for any, the query, no results and the
exact total.
-/
theorem countingBody_eq (request : Request) :
    request.countingBody = .object (Json.optional "aggs" request.controls.aggregations ++
      [("query", .field "bool" request.query.toJson), ("size", .ofUInt64 0),
        ("track_total_hits", .bool true)]) := by
  -- The members are taken out of the map and set in it, which keeps their names in order.
  let counted : NameMap Json :=
    ((((request.members.erase "from").erase "sort").erase "_source").insert "size"
      (.ofUInt64 0)).insert "track_total_hits" (.bool true)
  have hbody : request.countingBody = .object counted.entries := rfl
  have hnames : ["aggs", "query", "size", "track_total_hits"].Pairwise (· < ·) := by decide
  rw [hbody, Json.object.injEq]
  apply NameMap.entries_eq_of_lookup
  · rw [← List.pairwise_map, List.map_append]
    exact hnames.sublist ((Json.names_optional _ _).append (List.Sublist.refl _))
  · intro name
    have hmember : counted.get? name = request.countingBody.member? name := rfl
    rw [hmember, member?_countingBody, member?_body, List.lookup_append]
    simp only [NameMap.lookup_cons_entry, Json.lookup_optional, List.lookup_nil]
    split_ifs <;> simp_all

/-- The query and the aggregations determine the body for counting. -/
theorem countingBody_congr {a b : Request} (hquery : a.query = b.query)
    (haggregations : a.controls.aggregations = b.controls.aggregations) :
    a.countingBody = b.countingBody := by
  rw [countingBody_eq, countingBody_eq, hquery, haggregations]

/-- The names of the members of the body for counting. -/
theorem names_countingBody (request : Request) :
    ∃ members, request.countingBody = .object members ∧
      members.map (·.1) =
        if (request.body.member? "aggs").isSome then ["aggs", "query", "size", "track_total_hits"]
        else ["query", "size", "track_total_hits"] := by
  refine ⟨_, request.countingBody_eq, ?_⟩
  have haggs : request.body.member? "aggs" = request.controls.aggregations := by
    simp [member?_body]
  rw [haggs]
  cases request.controls.aggregations <;> rfl

end Request

/-- Option sets that agree outside the presentation give the same aggregations. -/
theorem Collection.aggregations_eq_of_presentation {collection : Collection}
    {options options' : OptionSet} {settings settings' : Settings}
    (h : collection.schema.settings options = .ok settings)
    (h' : collection.schema.settings options' = .ok settings')
    (hagree : options.AgreeOutside Controls.presentation options') :
    (Controls.ofSettings settings).aggregations = (Controls.ofSettings settings').aggregations := by
  have hname : "aggregations" ∉ Controls.presentation := by decide
  exact Settings.document_congr (Schema.get?_settings_congr h h' (hagree _ hname))

/--
Paging, order, fields and the asked total make no difference for counting: requests for options
that differ in these alone have the same body for counting. The body for counting of any request has
the query of its body, no results, the exact total and the aggregations of its body if there are
any, and no other member.
-/
theorem counting_ignores_presentation :
    (∀ (configuration : Configuration) (collection : Collection) (options options' : OptionSet)
        (request request' : Request),
      compile configuration collection options = .ok request →
      compile configuration collection options' = .ok request' →
      options.AgreeOutside Controls.presentation options' →
        request.countingBody = request'.countingBody) ∧
    ∀ request : Request,
      (∃ members, request.countingBody = .object members ∧
        members.map (·.1) =
          if (request.body.member? "aggs").isSome then
            ["aggs", "query", "size", "track_total_hits"]
          else ["query", "size", "track_total_hits"]) ∧
      request.countingBody.member? "size" = some (.ofUInt64 0) ∧
      request.countingBody.member? "track_total_hits" = some (.bool true) ∧
      (request.body.member? "query").isSome = true ∧
      (∀ name, name = "query" ∨ name = "aggs" →
        request.countingBody.member? name = request.body.member? name) := by
  refine ⟨?_, fun request => ⟨request.names_countingBody, ?_, ?_, ?_, ?_⟩⟩
  · intro configuration collection options options' request request' hrequest hrequest' hagree
    obtain ⟨settings, h, rfl⟩ := compile_eq_ok_iff.mp hrequest
    obtain ⟨settings', h', rfl⟩ := compile_eq_ok_iff.mp hrequest'
    have hcontrols : options.AgreeOutside Controls.options options' := by
      have hsubset : ∀ name ∈ Controls.presentation, name ∈ Controls.options := by decide
      exact fun name hname => hagree name (mt (hsubset name) hname)
    exact Request.countingBody_congr (Collection.query_eq_of_controls h h' hcontrols)
      (Collection.aggregations_eq_of_presentation h h' hagree)
  · simp [Request.member?_countingBody]
  · simp [Request.member?_countingBody]
  · simp [Request.member?_body]
  · rintro name (rfl | rfl) <;> simp [Request.member?_countingBody]

/-- The second page in some order, without a total, is counted as the first three results are. -/
theorem second_page_counted_as_first :
    let shared : List (String × Supplied) :=
      [("aggregations", .document (.object [])), ("published", .bool true)]
    let second : List (String × Supplied) :=
      [("offset", .int 10), ("sort", .text "rank"), ("track_total_hits", .bool false)]
    let first : List (String × Supplied) := [("fields", .text "id"), ("limit", .int 3)]
    ∃ request request' : Request,
      compile {} .messages (NameMap.ofList (shared ++ second)) = .ok request ∧
      compile {} .messages (NameMap.ofList (shared ++ first)) = .ok request' ∧
      request.countingBody = request'.countingBody := by
  intro shared second first
  obtain ⟨request, hrequest⟩ :
      ∃ request, compile {} .messages (NameMap.ofList (shared ++ second)) = .ok request := by
    apply exists_request_ofList
    simp only [shared, second, List.cons_append, List.nil_append, List.forall_mem_cons,
      List.not_mem_nil, false_imp_iff, implies_true, and_true]
    exact ⟨⟨.document, by decide, .document _⟩, ⟨.flag, by decide, .flag (.bool true)⟩,
      ⟨.count, by decide, .count (by decide)⟩, ⟨.document, by decide, .document _⟩,
      .flag, by decide, .flag (.bool false)⟩
  obtain ⟨request', hrequest'⟩ :
      ∃ request, compile {} .messages (NameMap.ofList (shared ++ first)) = .ok request := by
    apply exists_request_ofList
    simp only [shared, first, List.cons_append, List.nil_append, List.forall_mem_cons,
      List.not_mem_nil, false_imp_iff, implies_true, and_true]
    exact ⟨⟨.document, by decide, .document _⟩, ⟨.flag, by decide, .flag (.bool true)⟩,
      ⟨.document, by decide, .document _⟩, .count, by decide, .count (by decide)⟩
  have hagree : OptionSet.AgreeOutside Controls.presentation (NameMap.ofList (shared ++ second))
      (NameMap.ofList (shared ++ first)) := by
    intro name hname
    have hskip (options : OptionSet) (value : Supplied) {key : String}
        (hkey : key ∈ Controls.presentation) :
        NameMap.get? (options.insert key value) name = options.get? name := by
      rw [NameMap.get?_insert, if_neg]
      rintro rfl
      exact hname hkey
    have hsecond : (NameMap.ofList (shared ++ second)).get? name =
        (NameMap.ofList shared).get? name :=
      ((hskip _ _ (by decide)).trans (hskip _ _ (by decide))).trans (hskip _ _ (by decide))
    have hfirst : (NameMap.ofList (shared ++ first)).get? name =
        (NameMap.ofList shared).get? name :=
      (hskip _ _ (by decide)).trans (hskip _ _ (by decide))
    rw [hsecond, hfirst]
  obtain ⟨hcount, -⟩ := counting_ignores_presentation
  exact ⟨request, request', hrequest, hrequest',
    hcount {} .messages _ _ request request' hrequest hrequest' hagree⟩

end FacetedSearch
