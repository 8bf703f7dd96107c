import FacetedSearch.Proofs.Compile.Requests
import FacetedSearch.Proofs.Facet.Bounds
import FacetedSearch.Proofs.Time.Canonical

/-!
# Moments in requests

The bounds on dates in a request are canonical texts of moments that were supplied. In the
years 0 to 9999 such a text denotes the same moment for the compiler as the moment itself, so an
option may be supplied in either form, and a bound taken from a request gives this request again.
-/

namespace FacetedSearch

namespace Shape

/-- In a year of four digits, a canonical text is read as itself. -/
theorem read_canonical {t : Instant} (h : t.InFourDigitYear) :
    Shape.moment.read (.text t.canonical) = .ok (.moment (some t.canonical)) := by
  have hread : (Supplied.text t.canonical).instant? = some t.truncated :=
    Instant.readTimestamp_canonical h
  rw [read_moment hread, Instant.canonical_truncated]

end Shape

/-! ### Bounds on dates -/

/-- Only a set bound on dates contributes a bound that is a text. -/
theorem Facet.moment_of_range {facet : Facet} {settings : Settings} {configuration : Configuration}
    {field text : String} {bound : Bound}
    (h : .range field bound (.string text) ∈ (facet.contribution settings configuration).filter) :
    ∃ name, ⟨name, .moment⟩ ∈ facet.declarations ∧ settings.moment name = some text := by
  rcases range_mem_contribution_iff.mp h with
    ⟨_, _, _, -, -, hvalue⟩ | ⟨after, onOrAfter, before, onOrBefore, name, rfl, hbound, hvalue⟩
  · obtain ⟨n, -, hn⟩ := Option.map_eq_some_iff.mp hvalue
    simp at hn
  · obtain ⟨moment, hmoment, heq⟩ := Option.map_eq_some_iff.mp hvalue
    obtain rfl := Json.string.inj heq
    exact ⟨name, List.mem_map.mpr ⟨(name, bound), hbound, rfl⟩, hmoment⟩

/-- A bound that is a text in the filter of a request is a moment that was supplied. -/
theorem moment_of_request {configuration : Configuration} {collection : Collection}
    {options : OptionSet} {request : Request}
    (h : compile configuration collection options = .ok request) {field text : String}
    {bound : Bound} (hrange : .range field bound (.string text) ∈ request.query.filter) :
    ∃ name t, ⟨name, .moment⟩ ∈ collection.declarations ∧
      (options.value name).instant? = some t ∧ text = t.canonical := by
  obtain ⟨settings, hsettings, rfl⟩ := compile_eq_ok_iff.mp h
  have hlisted : Clause.range field bound (.string text) ∈
      (collection.query configuration settings).clauses .filter := hrange
  obtain ⟨facet, hfacet, hclause⟩ := Collection.mem_clauses_query_iff.mp hlisted
  obtain ⟨name, hdeclared, hmoment⟩ := Facet.moment_of_range hclause
  have hname := Collection.get?_shapes_of_facet hfacet hdeclared
  rw [Schema.moment_eq hsettings hname] at hmoment
  obtain ⟨t, ht, rfl⟩ := Option.map_eq_some_iff.mp hmoment
  exact ⟨name, t, Collection.get?_shapes_iff.mp hname, ht, rfl⟩

/-- A moment that was supplied for a bound on dates is such a bound in the filter. -/
theorem range_of_moment {configuration : Configuration} {collection : Collection}
    {options : OptionSet} {request : Request}
    (h : compile configuration collection options = .ok request)
    {field after onOrAfter before onOrBefore name : String} {bound : Bound} {t : Instant}
    (hfacet : .dateRange field after onOrAfter before onOrBefore ∈ collection.facets)
    (hbound : (name, bound) ∈ Facet.dateBounds after onOrAfter before onOrBefore)
    (ht : (options.value name).instant? = some t) :
    .range field bound (.string t.canonical) ∈ request.query.filter := by
  obtain ⟨settings, hsettings, rfl⟩ := compile_eq_ok_iff.mp h
  have hdeclared : ⟨name, .moment⟩ ∈
      (Facet.dateRange field after onOrAfter before onOrBefore).declarations :=
    List.mem_map.mpr ⟨(name, bound), hbound, rfl⟩
  have hmoment : settings.moment name = some t.canonical := by
    rw [Schema.moment_eq hsettings (Collection.get?_shapes_of_facet hfacet hdeclared), ht]
    rfl
  have hclause : .range field bound (.string t.canonical) ∈
      ((Facet.dateRange field after onOrAfter before onOrBefore).contribution settings
        configuration).filter :=
    Facet.range_mem_contribution_iff.mpr
      (.inr ⟨after, onOrAfter, before, onOrBefore, name, rfl, hbound, by rw [hmoment]; rfl⟩)
  have hlisted : .range field bound (.string t.canonical) ∈
      (collection.query configuration settings).clauses .filter :=
    Collection.mem_clauses_query_iff.mpr ⟨_, hfacet, hclause⟩
  exact hlisted

/--
Canonical timestamps are read back exactly in the years of four digits: the text has a fixed
shape, reading it cuts the instant off to the millisecond, an option may be supplied as the
instant or as its JSON, and a bound on dates taken from a request is normal and can be supplied
in the place of the value it came from. In any other year the text is not read.
-/
theorem canonical_timestamps_read_back :
    (∀ t : Instant, t.InFourDigitYear →
      Time.HasCanonicalShape t.canonical ∧ Time.readTimestamp t.canonical = some t.truncated) ∧
    (∀ t : Instant, ¬ t.InFourDigitYear → Time.readTimestamp t.canonical = none) ∧
    (∀ (configuration : Configuration) (collection : Collection) (options : OptionSet)
      (name : String) (t : Instant), ⟨name, .moment⟩ ∈ collection.declarations →
        t.InFourDigitYear →
          compile configuration collection (options.insert name (.instant t)) =
            compile configuration collection
              (options.insert name (.ofJson (Supplied.instant t).toJson))) ∧
    ∀ (configuration : Configuration) (collection : Collection) (options : OptionSet)
      (request : Request) (field text : String) (bound : Bound),
      compile configuration collection options = .ok request →
        .range field bound (.string text) ∈ request.query.filter →
          ∃ name t, ⟨name, .moment⟩ ∈ collection.declarations ∧
            (options.value name).instant? = some t ∧ text = t.canonical ∧
            (t.InFourDigitYear →
              Shape.moment.read (.text text) = .ok (.moment (some text)) ∧
              compile configuration collection (options.insert name (.text text)) =
                .ok request) := by
  refine ⟨fun t h => ⟨t.hasCanonicalShape h, t.readTimestamp_canonical h⟩,
    fun t h => t.readTimestamp_canonical_eq_none h, ?_, ?_⟩
  · intro configuration collection options name t hname hyear
    have hjson : Supplied.ofJson (Supplied.instant t).toJson = .text t.canonical := rfl
    have htyped : Shape.moment.read (.instant t) = .ok (.moment (some t.canonical)) :=
      Shape.read_moment rfl
    rw [hjson]
    exact compile_insert_congr hname (htyped.trans (Shape.read_canonical hyear).symm)
  · intro configuration collection options request field text bound hrequest hrange
    obtain ⟨name, t, hname, hvalue, rfl⟩ := moment_of_request hrequest hrange
    refine ⟨name, t, hname, hvalue, rfl, fun hyear => ⟨Shape.read_canonical hyear, ?_⟩⟩
    have hsupplied := OptionSet.get?_of_value_ne_null (Supplied.ne_null_of_instant? hvalue)
    have hread := (Shape.read_canonical hyear).trans (Shape.read_moment hvalue).symm
    rw [compile_insert_congr hname hread, NameMap.insert_eq_self hsupplied, hrequest]

/--
A leap second is supplied with nanoseconds and read back as one to the millisecond. A search
before it is the same as one before its text, and the bound in that search can be supplied again;
the first instant of the year 10000 has no text that is read.
-/
theorem leap_second_read_back :
    ∃ (leap late : Instant) (request : Request),
      leap.canonical = "2016-12-31T23:59:60.234Z" ∧ leap.nanos = 1234567890 ∧
      Time.HasCanonicalShape leap.canonical ∧
      (Time.readTimestamp leap.canonical).map Instant.nanos = some 1234000000 ∧
      late.canonical = "+10000-01-01T00:00:00.000Z" ∧ Time.readTimestamp late.canonical = none ∧
      compile {} .messages (NameMap.ofList [("created_before", .instant leap)]) = .ok request ∧
      compile {} .messages (NameMap.ofList [("created_before", .text leap.canonical)]) =
        .ok request ∧
      Shape.moment.read (.text leap.canonical) = .ok (.moment (some leap.canonical)) := by
  obtain ⟨hread, hunread, htyped, hbounds⟩ := canonical_timestamps_read_back
  let leap : Instant := ⟨1483228799, 1234567890, by decide, by decide⟩
  let late : Instant := ⟨253402300800, 0, by decide, by decide⟩
  have hleap : leap.InFourDigitYear := by decide +kernel
  have hlate : ¬ late.InFourDigitYear := by decide +kernel
  have hname : ⟨"created_before", .moment⟩ ∈ Collection.messages.declarations := by
    decide +kernel
  obtain ⟨hshape, hinstant⟩ := hread leap hleap
  obtain ⟨request, hrequest⟩ : ∃ request, compile {} .messages
      (NameMap.ofList [("created_before", .instant leap)]) = .ok request := by
    apply exists_request_ofList
    rw [List.forall_mem_singleton]
    exact ⟨.moment, hname, .instant leap⟩
  have hbound : .range "created_at" .below (.string leap.canonical) ∈ request.query.filter := by
    have hfacet : .dateRange "created_at" "created_after" "created_on_or_after" "created_before"
        "created_on_or_before" ∈ Collection.messages.facets := by decide +kernel
    have hthird : ("created_before", Bound.below) ∈ Facet.dateBounds "created_after"
        "created_on_or_after" "created_before" "created_on_or_before" := by decide +kernel
    exact range_of_moment hrequest hfacet hthird rfl
  obtain ⟨name, t, -, ht, -, hagain⟩ := hbounds {} .messages _ request _ _ _ hrequest hbound
  have hyear : t.InFourDigitYear := by
    have hvalue : (OptionSet.value (NameMap.ofList [("created_before", .instant leap)]) name) =
        if name = "created_before" then .instant leap else .null := by
      change ((NameMap.empty.insert "created_before" (Supplied.instant leap)).get? name).getD
        .null = _
      rw [NameMap.get?_insert]
      split <;> rfl
    rw [hvalue] at ht
    split at ht
    · rw [← Option.some.inj ht]
      exact hleap
    · simp [Supplied.instant?] at ht
  refine ⟨leap, late, request, ?_, rfl, hshape, ?_, ?_, hunread late hlate, hrequest, ?_,
    (hagain hyear).1⟩
  · decide +kernel
  · rw [hinstant]
    decide +kernel
  · decide +kernel
  · exact (htyped {} .messages .empty "created_before" leap hname hleap).symm.trans hrequest

end FacetedSearch
