import FacetedSearch.Proofs.Compile.Moments
import FacetedSearch.Proofs.Time.Spellings

/-!
# Spellings of moments in requests

The documented spellings of one moment of universal time are read alike, so a bound on dates
may be supplied in any of them: the request is the same, with the moment as a bound in its
filter, or there is none.
-/

namespace FacetedSearch

/-- Only bounds on dates are moments. -/
theorem Collection.exists_dateRange_of_moment {collection : Collection} {name : String}
    (h : ⟨name, .moment⟩ ∈ collection.declarations) :
    ∃ field after onOrAfter before onOrBefore bound,
      .dateRange field after onOrAfter before onOrBefore ∈ collection.facets ∧
        (name, bound) ∈ Facet.dateBounds after onOrAfter before onOrBefore := by
  rw [declarations, List.mem_append, List.mem_flatMap] at h
  rcases h with ⟨facet, hfacet, hdeclared⟩ | hcontrols
  · cases facet with
    | dateRange field after onOrAfter before onOrBefore =>
      obtain ⟨⟨option, bound⟩, hbound, heq⟩ := List.mem_map.mp hdeclared
      obtain rfl : option = name := (Declaration.mk.inj heq).1
      exact ⟨field, after, onOrAfter, before, onOrBefore, bound, hfacet, hbound⟩
    | identity source shape =>
      rcases shape_of_identity hfacet with rfl | rfl <;> simp [Facet.declarations] at hdeclared
    | anyOf sources => simp [Facet.declarations] at hdeclared
    | exclusion source => simp [Facet.declarations] at hdeclared
    | flag option condition whenTrue => simp [Facet.declarations] at hdeclared
    | switch option condition occurrence => simp [Facet.declarations] at hdeclared
    | numericRange field greaterThan lessThan => simp [Facet.declarations] at hdeclared
    | sellerText box => simp [Facet.declarations] at hdeclared
    | buyerText box => simp [Facet.declarations] at hdeclared
  · simp [Controls.declarations] at hcontrols

/-- A text that is supplied as a moment is one, or there is no request. -/
theorem exists_instant_of_request {configuration : Configuration} {collection : Collection}
    {options : OptionSet} {name text : String} {request : Request}
    (hname : ⟨name, .moment⟩ ∈ collection.declarations)
    (h : compile configuration collection (options.insert name (.text text)) = .ok request) :
    ∃ t, Time.readTimestamp text = some t := by
  have htakes := exists_request_iff.mp ⟨request, h⟩ name (.text text)
    (NameMap.get?_insert_self options name (.text text))
  obtain ⟨shape, hshape, htakes⟩ := htakes
  obtain rfl : shape = .moment :=
    Option.some.inj (hshape.symm.trans (Collection.get?_shapes_iff.mpr hname))
  cases htakes with
  | momentText hread => exact Option.isSome_iff_exists.mp hread

/-- Texts of the same moment give the same request, or none. -/
theorem compile_insert_text_congr {configuration : Configuration} {collection : Collection}
    {options : OptionSet} {name text text' : String} {request : Request}
    (hname : ⟨name, .moment⟩ ∈ collection.declarations)
    (hread : Time.readTimestamp text = Time.readTimestamp text')
    (h : compile configuration collection (options.insert name (.text text)) = .ok request) :
    compile configuration collection (options.insert name (.text text')) = .ok request := by
  obtain ⟨t, ht⟩ := exists_instant_of_request hname h
  have hmoment : Shape.moment.read (.text text) = .ok (.moment (some t.canonical)) :=
    Shape.read_moment ht
  have hmoment' : Shape.moment.read (.text text') = .ok (.moment (some t.canonical)) :=
    Shape.read_moment (hread.symm.trans ht)
  rw [← compile_insert_congr hname (hmoment.trans hmoment'.symm), h]

/--
The spellings of one day and time of day in universal time agree: all of them are read as the same
instant or none is read, and an option for a moment gives the same request in each, with that
instant as a bound of the filter, or no request in any.
-/
theorem moment_spellings_agree {day : Time.WrittenDay} {time : Time.WrittenTime}
    {text text' : String} (h : Time.Spells text day time) (h' : Time.Spells text' day time) :
    Time.readTimestamp text = Time.readTimestamp text' ∧
    ∀ (configuration : Configuration) (collection : Collection) (options : OptionSet)
      (name : String) (request : Request), ⟨name, .moment⟩ ∈ collection.declarations →
        (compile configuration collection (options.insert name (.text text)) = .ok request ↔
          compile configuration collection (options.insert name (.text text')) = .ok request) ∧
        (compile configuration collection (options.insert name (.text text)) = .ok request →
          ∃ t field after onOrAfter before onOrBefore bound,
            Time.readTimestamp text = some t ∧
            .dateRange field after onOrAfter before onOrBefore ∈ collection.facets ∧
            (name, bound) ∈ Facet.dateBounds after onOrAfter before onOrBefore ∧
            .range field bound (.string t.canonical) ∈ request.query.filter) := by
  have hread : Time.readTimestamp text = Time.readTimestamp text' := by
    rw [Time.readTimestamp_of_spells h, Time.readTimestamp_of_spells h']
  refine ⟨hread, fun configuration collection options name request hname => ⟨⟨?_, ?_⟩, ?_⟩⟩
  · exact compile_insert_text_congr hname hread
  · exact compile_insert_text_congr hname hread.symm
  · intro hrequest
    obtain ⟨t, ht⟩ := exists_instant_of_request hname hrequest
    obtain ⟨field, after, onOrAfter, before, onOrBefore, bound, hfacet, hbound⟩ :=
      Collection.exists_dateRange_of_moment hname
    have hvalue : (OptionSet.value (options.insert name (.text text)) name).instant? = some t := by
      rw [OptionSet.value, NameMap.get?_insert_self]
      exact ht
    exact ⟨t, field, after, onOrAfter, before, onOrBefore, bound, ht, hfacet, hbound,
      range_of_moment hrequest hfacet hbound hvalue⟩

/-- A day alone and its start in universal time, with a blank around it, are the same bound. -/
theorem day_and_its_start_agree :
    ∃ request field bound,
      compile {} .messages
        (NameMap.empty.insert "created_before" (.text "2016-12-31")) = .ok request ∧
      compile {} .messages
        (NameMap.empty.insert "created_before" (.text " 2016-12-31 00:00:00Z")) = .ok request ∧
      .range field bound (.string "2016-12-31T00:00:00.000Z") ∈ request.query.filter := by
  let day : Time.WrittenDay :=
    ⟨⟨['2', '0', '1', '6'], rfl, List.all_eq_true.mp rfl⟩,
      ⟨['1', '2'], rfl, List.all_eq_true.mp rfl⟩, ⟨['3', '1'], rfl, List.all_eq_true.mp rfl⟩⟩
  have halone : Time.Spells "2016-12-31" day .midnight :=
    ⟨[], day.text, [], .alone, by simp, by simp, rfl⟩
  have hstart : Time.Spells " 2016-12-31 00:00:00Z" day .midnight :=
    ⟨[' '], _, [], .spaceZone .midnight, List.all_eq_true.mp rfl, by simp, rfl⟩
  have hname : ⟨"created_before", .moment⟩ ∈ Collection.messages.declarations := by
    decide +kernel
  have hcanonical : (Time.readTimestamp "2016-12-31").map Instant.canonical =
      some "2016-12-31T00:00:00.000Z" := by decide +kernel
  obtain ⟨request, hrequest⟩ : ∃ request, compile {} .messages
      (NameMap.ofList [("created_before", .text "2016-12-31")]) = .ok request := by
    apply exists_request_ofList
    rw [List.forall_mem_singleton]
    exact ⟨.moment, hname, .momentText (by decide +kernel)⟩
  obtain ⟨-, hagree⟩ := moment_spellings_agree halone hstart
  obtain ⟨hsame, hbound⟩ := hagree {} .messages .empty "created_before" request hname
  obtain ⟨t, field, -, -, -, -, bound, ht, -, -, hrange⟩ := hbound hrequest
  rw [ht] at hcanonical
  obtain hcanonical := Option.some.inj hcanonical
  rw [hcanonical] at hrange
  exact ⟨request, field, bound, hrequest, hsame.mp hrequest, hrange⟩

end FacetedSearch
