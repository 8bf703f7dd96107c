import FacetedSearch.Proofs.Compile.Requests
import FacetedSearch.Proofs.Facet.Fuzziness

/-!
# Requests under two configurations

A configuration shows in a request at two places: the name of the index and the fuzziness of the
inexact matches. Whether there is a request, what it selects but for the fuzziness, and its
controls are the same under every configuration. The name of an index tells its prefix and its
collection, since no collection's name, with the underscore before it, is the end of another's.
-/

namespace FacetedSearch

/-! ### Index names -/

namespace Collection

/-- The end of the names of a collection's indices. -/
def indexEnding (collection : Collection) : List Char := '_' :: collection.name.toList

/-- No collection's ending is the end of another's. -/
theorem eq_of_indexEnding_suffix {collection other : Collection}
    (h : collection.indexEnding <:+ other.indexEnding) : collection = other := by
  cases collection with
  | transactions =>
    cases other with
    | transactions => rfl
    | messages => exact absurd h (by decide)
  | messages =>
    cases other with
    | transactions => exact absurd h (by decide)
    | messages => rfl

/-- Texts with the endings of two collections are equal only for the same collection. -/
theorem eq_of_append_indexEnding {start start' : List Char} {collection other : Collection}
    (h : start ++ collection.indexEnding = start' ++ other.indexEnding) : collection = other := by
  have hsuffix : collection.indexEnding <:+ start ++ collection.indexEnding :=
    List.suffix_append start collection.indexEnding
  have hsuffix' : other.indexEnding <:+ start ++ collection.indexEnding :=
    h ▸ List.suffix_append start' other.indexEnding
  rcases List.suffix_or_suffix_of_suffix hsuffix hsuffix' with hfirst | hother
  · exact eq_of_indexEnding_suffix hfirst
  · exact (eq_of_indexEnding_suffix hother).symm

end Collection

namespace Configuration

theorem toList_indexName (configuration : Configuration) (collection : Collection) :
    (configuration.indexName collection).toList =
      configuration.indexPrefix.toList ++ collection.indexEnding := by
  rw [indexName, String.toList_append, String.toList_append, List.append_assoc]
  rfl

/-- An index name tells the prefix and the collection, whatever the prefix is. -/
theorem indexName_eq_iff {a b : Configuration} {collection other : Collection} :
    a.indexName collection = b.indexName other ↔
      a.indexPrefix = b.indexPrefix ∧ collection = other := by
  constructor
  · intro hname
    have hlists : a.indexPrefix.toList ++ collection.indexEnding =
        b.indexPrefix.toList ++ other.indexEnding := by
      rw [← toList_indexName, ← toList_indexName, hname]
    obtain rfl := Collection.eq_of_append_indexEnding hlists
    exact ⟨String.toList_inj.mp (List.append_cancel_right hlists), rfl⟩
  · rintro ⟨hstart, rfl⟩
    rw [indexName, indexName, hstart]

end Configuration

/-! ### Requests -/

/-- The query under another configuration is the same but for its fuzziness. -/
theorem Collection.withFuzziness_query (collection : Collection) (settings : Settings)
    (a b : Configuration) :
    (collection.query a settings).withFuzziness b.fuzziness = collection.query b settings := by
  rw [query, query, BooleanQuery.withFuzziness_concat, List.map_map]
  congr 1
  apply List.map_congr_left
  intro facet _
  exact facet.withFuzziness_contribution settings a b

/-- The request with the index and the fuzziness of another configuration. -/
def Request.reconfigured (configuration : Configuration) (request : Request) : Request where
  collection := request.collection
  index := configuration.indexName request.collection
  query := request.query.withFuzziness configuration.fuzziness
  controls := request.controls

/-- Compiling under another configuration changes the index and the fuzziness of a request only. -/
theorem compile_eq_map_reconfigured (a b : Configuration) (collection : Collection)
    (options : OptionSet) :
    compile b collection options = (compile a collection options).map (·.reconfigured b) := by
  rw [compile, compile]
  cases collection.schema.settings options with
  | error error => rfl
  | ok settings =>
    have hquery := collection.withFuzziness_query settings a b
    simp only [Except.map, Collection.request, Request.reconfigured, hquery]

/-- With the fuzziness it has, a compiled request only changes its index. -/
theorem reconfigured_eq_of_fuzziness {a b : Configuration} {collection : Collection}
    {options : OptionSet} {request : Request} (h : compile a collection options = .ok request)
    (hfuzziness : a.fuzziness = b.fuzziness) :
    request.reconfigured b = { request with index := b.indexName collection } := by
  obtain ⟨settings, -, rfl⟩ := compile_eq_ok_iff.mp h
  have hquery : (collection.query a settings).withFuzziness b.fuzziness =
      collection.query a settings := by
    rw [← hfuzziness, collection.withFuzziness_query settings a a]
  rw [Request.reconfigured, Collection.request, hquery]

/--
A configuration never changes what is filtered. Under any two configurations, valid or not, options
are refused with the same error, or give requests with the same controls whose queries are equal
once their inexact matches have the same fuzziness. If the configurations agree on the fuzziness,
the requests differ in the index alone and have equal bodies. Names of indices are equal only for
the same prefix and the same collection.
-/
theorem configuration_changes_no_filter :
    (∀ (a b : Configuration) (collection : Collection) (options : OptionSet),
      (∀ error, compile a collection options = .error error ↔
        compile b collection options = .error error) ∧
      ∀ request, compile a collection options = .ok request →
        ∃ request', compile b collection options = .ok request' ∧
          request.controls = request'.controls ∧
          (∀ fuzziness, request.query.withFuzziness fuzziness =
            request'.query.withFuzziness fuzziness) ∧
          request'.query = request.query.withFuzziness b.fuzziness ∧
          (a.fuzziness = b.fuzziness →
            request' = { request with index := b.indexName collection } ∧
              request.body = request'.body ∧ request.countingBody = request'.countingBody)) ∧
    ∀ (a b : Configuration) (collection other : Collection),
      a.indexName collection = b.indexName other ↔
        a.indexPrefix = b.indexPrefix ∧ collection = other := by
  refine ⟨?_, fun a b collection other => Configuration.indexName_eq_iff⟩
  intro a b collection options
  have hcompile := compile_eq_map_reconfigured a b collection options
  constructor
  · intro error
    rw [hcompile]
    cases compile a collection options <;> simp [Except.map]
  · intro request hrequest
    refine ⟨request.reconfigured b, ?_, rfl, ?_, rfl, ?_⟩
    · rw [hcompile, hrequest]
      rfl
    · intro fuzziness
      exact (BooleanQuery.withFuzziness_withFuzziness b.fuzziness fuzziness request.query).symm
    · intro hfuzziness
      rw [reconfigured_eq_of_fuzziness hrequest hfuzziness]
      exact ⟨rfl, rfl, rfl⟩

/--
Under another prefix, which ends like an index name itself, a request has the same body. An empty
prefix and a blank fuzziness are refused by validation, but they keep the filter all the same.
-/
theorem unusual_configurations_keep_filter :
    let options : OptionSet :=
      NameMap.ofList [("limit", .int 5), ("published", .bool true), ("query", .text "launch")]
    ∃ request request' request'' : Request,
      compile {} .messages options = .ok request ∧
      compile { indexPrefix := "shop_messages" } .messages options = .ok request' ∧
      compile { indexPrefix := "", fuzziness := " " } .messages options = .ok request'' ∧
      request'.index = "shop_messages_messages" ∧ request.body = request'.body ∧
      request''.query = request.query.withFuzziness " " ∧ request.controls = request''.controls := by
  intro options
  obtain ⟨request, hrequest⟩ : ∃ request, compile {} .messages options = .ok request := by
    apply exists_request_ofList
    simp only [List.forall_mem_cons, List.not_mem_nil, false_imp_iff, implies_true, and_true]
    exact ⟨⟨.count, by decide, .count (by decide)⟩, ⟨.flag, by decide, .flag (.bool true)⟩,
      .text, by decide, .text _⟩
  obtain ⟨hrequests, -⟩ := configuration_changes_no_filter
  obtain ⟨request', hrequest', -, -, -, hsame⟩ :=
    (hrequests {} { indexPrefix := "shop_messages" } .messages options).2 request hrequest
  obtain ⟨hindex, hbody, -⟩ := hsame rfl
  obtain ⟨request'', hrequest'', hcontrols, -, hquery, -⟩ :=
    (hrequests {} { indexPrefix := "", fuzziness := " " } .messages options).2 request hrequest
  exact ⟨request, request', request'', hrequest, hrequest', hrequest'',
    congrArg Request.index hindex, hbody, hquery, hcontrols⟩

end FacetedSearch
