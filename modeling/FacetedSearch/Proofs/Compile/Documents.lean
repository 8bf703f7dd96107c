import FacetedSearch.Proofs.Compile.Body
import FacetedSearch.Proofs.Compile.Requests
import FacetedSearch.Proofs.Json.RoundTrip
import FacetedSearch.Proofs.Schema.Settings

/-!
# Documents in bodies

The order of the results, the fields shown and the aggregations are passed on as JSON. Each of them
stands in the body of a request as it was supplied, if it survives being supplied at all.
-/

namespace FacetedSearch

/-- The options that are passed on as JSON, each with the name of its member of the body. -/
def documentMembers : List (String × String) :=
  [("sort", "sort"), ("fields", "_source"), ("aggregations", "aggs")]

/-- The value of an option is that of the last member of its name. -/
theorem OptionSet.value_of_member {members : List (String × Json)} {options : OptionSet}
    (hoptions : ofJson (.object members) = .ok options) {name : String} {value : Json}
    (hvalue : (NameMap.ofList members).get? name = some value) :
    options.value name = Supplied.ofJson value := by
  obtain rfl := Except.ok.inj hoptions
  rw [OptionSet.value, NameMap.ofList_map, NameMap.get?_map, hvalue]
  rfl

/-- A document stands in the body under its own name, unless it is null. -/
theorem member?_body_of_document {configuration : Configuration} {collection : Collection}
    {options : OptionSet} {request : Request}
    (h : compile configuration collection options = .ok request) {slot : String × String}
    (hslot : slot ∈ documentMembers) :
    request.body.member? slot.2 = if (options.value slot.1).isNull then none
      else some (options.value slot.1).toJson := by
  obtain ⟨settings, hsettings, rfl⟩ := compile_eq_ok_iff.mp h
  have hdeclared : ∀ slot ∈ documentMembers, ⟨slot.1, .document⟩ ∈ Controls.declarations := by
    decide
  have hshape : collection.schema.shapes.get? slot.1 = some .document :=
    Collection.get?_shapes_iff.mpr (collection.mem_declarations_of_control (hdeclared slot hslot))
  rw [← Schema.document_eq hsettings hshape, Request.member?_body]
  simp only [documentMembers, List.mem_cons, List.not_mem_nil, or_false] at hslot
  rcases hslot with rfl | rfl | rfl <;> rfl

/--
A JSON value that is supplied is written again as the same value if and only if no integer above the
signed words is reached in it through arrays alone. So, whatever else a payload holds, a sort order,
a choice of fields or an aggregation that is not null stands in the body of the request as it is
under that same condition, and not otherwise.
-/
theorem documents_kept_iff :
    (∀ value : Json, (Supplied.ofJson value).toJson = value ↔ ¬ value.ReachesLargeInteger) ∧
    ∀ (configuration : Configuration) (collection : Collection) (members : List (String × Json))
      (options : OptionSet) (request : Request),
        OptionSet.ofJson (.object members) = .ok options →
        compile configuration collection options = .ok request →
        ∀ slot ∈ documentMembers, ∀ value : Json,
          (NameMap.ofList members).get? slot.1 = some value → value ≠ .null →
            (request.body.member? slot.2 = some value ↔ ¬ value.ReachesLargeInteger) := by
  refine ⟨Supplied.toJson_ofJson_iff, ?_⟩
  intro configuration collection members options request hoptions hrequest slot hslot value hvalue
    hnull
  have hsupplied := OptionSet.value_of_member hoptions hvalue
  have hset : (Supplied.ofJson value).isNull ≠ true :=
    mt (Supplied.isNull_ofJson_iff value).mp hnull
  rw [member?_body_of_document hrequest hslot, hsupplied, if_neg hset, Option.some.injEq,
    Supplied.toJson_ofJson_iff]

/-- One integer is kept in an array that is in an object, and lost in an array of arrays. -/
theorem large_integer_kept_in_object :
    let large := Json.ofUInt64 9223372036854775808
    let fields := Json.array [.string "title", .array [large]]
    let sort := Json.object [("rank", .array [large])]
    ∃ (options : OptionSet) (request : Request),
      OptionSet.ofJson (.object [("fields", fields), ("sort", sort)]) = .ok options ∧
      compile {} .messages options = .ok request ∧
      request.body.member? "sort" = some sort ∧ request.body.member? "_source" ≠ some fields := by
  intro large fields sort
  let members : List (String × Json) := [("fields", fields), ("sort", sort)]
  obtain ⟨request, hrequest⟩ : ∃ request, compile {} .messages (NameMap.ofList
      [("fields", .ofJson fields), ("sort", .ofJson sort)]) = .ok request := by
    apply exists_request_ofList
    simp only [List.forall_mem_cons, List.not_mem_nil, false_imp_iff, implies_true, and_true]
    exact ⟨⟨.document, by decide +kernel, .document _⟩, .document, by decide +kernel, .document _⟩
  obtain ⟨-, hkept⟩ := documents_kept_iff
  have hmember := hkept {} .messages members _ request rfl hrequest
  have hget {name : String} {value : Json} (h : (name, value) ∈ members) :
      (NameMap.ofList members).get? name = some value :=
    (NameMap.get?_ofList_of_nodup (by decide)).mpr h
  have hsort : ¬ (Json.object [("rank", .array [large])]).ReachesLargeInteger := nofun
  have hfields : fields.ReachesLargeInteger := by
    refine .item (List.mem_cons_of_mem _ List.mem_cons_self) (.item List.mem_cons_self ?_)
    exact .self (by decide)
  refine ⟨_, request, rfl, hrequest, ?_, ?_⟩
  · have hiff := hmember ("sort", "sort") (by decide) sort (hget (by simp [members])) nofun
    exact hiff.mpr hsort
  · have hiff := hmember ("fields", "_source") (by decide) fields (hget (by simp [members])) nofun
    exact fun h => hiff.mp h hfields

end FacetedSearch
