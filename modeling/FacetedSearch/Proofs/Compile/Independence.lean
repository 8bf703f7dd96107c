import FacetedSearch.Proofs.Compile.Requests

/-!
# Facets do not interfere

A change of the options of one facet changes only what that facet contributes: in
each list of the query the clauses before and after its own stay the same, and so do the
index and the controls. The query and the controls do not read each other's options.
-/

namespace FacetedSearch

/-- Two option sets have the same value at every name outside some names. -/
def OptionSet.AgreeOutside (names : List String) (options options' : OptionSet) : Prop :=
  ∀ name, name ∉ names → options.get? name = options'.get? name

/-- Two option sets have the same value at every one of some names. -/
def OptionSet.AgreeOn (names : List String) (options options' : OptionSet) : Prop :=
  ∀ name ∈ names, options.get? name = options'.get? name

namespace Collection

variable {collection : Collection} {options options' : OptionSet} {settings settings' : Settings}

/-- Option sets that agree outside the options of a facet give the same controls. -/
theorem controls_eq_of_facet {facet : Facet} (hfacet : facet ∈ collection.facets)
    (h : collection.schema.settings options = .ok settings)
    (h' : collection.schema.settings options' = .ok settings')
    (hagree : options.AgreeOutside facet.options options') :
    Controls.ofSettings settings = Controls.ofSettings settings' := by
  apply Controls.ofSettings_congr
  intro name hname
  apply Schema.get?_settings_congr h h'
  apply hagree
  intro hfacetName
  exact not_mem_controls hfacet hfacetName hname

/-- Option sets that agree outside the controls give the same query. -/
theorem query_eq_of_controls {configuration : Configuration}
    (h : collection.schema.settings options = .ok settings)
    (h' : collection.schema.settings options' = .ok settings')
    (hagree : options.AgreeOutside Controls.options options') :
    collection.query configuration settings = collection.query configuration settings' := by
  apply query_congr
  intro name hname
  apply Schema.get?_settings_congr h h'
  apply hagree
  intro hcontrols
  obtain ⟨facet, hfacet, hfacetName⟩ := List.mem_flatMap.mp hname
  exact not_mem_controls hfacet hfacetName hcontrols

/-- Option sets that agree on the controls' options give the same controls. -/
theorem controls_eq_of_agreeOn
    (h : collection.schema.settings options = .ok settings)
    (h' : collection.schema.settings options' = .ok settings')
    (hagree : options.AgreeOn Controls.options options') :
    Controls.ofSettings settings = Controls.ofSettings settings' := by
  apply Controls.ofSettings_congr
  intro name hname
  exact Schema.get?_settings_congr h h' (hagree name hname)

end Collection

/--
No facet interferes with another or with the controls. A contribution depends only on the
options of its facet; changing these changes, in each list of the query, only the stretch that
the facet contributes itself; and the controls and the query do not depend on each
other's options.
-/
theorem facets_do_not_interfere (configuration : Configuration) :
    (∀ (facet : Facet) (a b : Settings), a.AgreeOn facet.options b →
      facet.contribution a configuration = facet.contribution b configuration) ∧
    (∀ (collection : Collection) (facet : Facet) (options options' : OptionSet)
        (request request' : Request), facet ∈ collection.facets →
      compile configuration collection options = .ok request →
      compile configuration collection options' = .ok request' →
      options.AgreeOutside facet.options options' →
        ∃ settings settings' : Settings, collection.schema.settings options = .ok settings ∧
          collection.schema.settings options' = .ok settings' ∧
          (∀ occurrence, ∃ earlier later : List Clause,
            request.query.clauses occurrence = earlier ++
              (facet.contribution settings configuration).clauses occurrence ++ later ∧
            request'.query.clauses occurrence = earlier ++
              (facet.contribution settings' configuration).clauses occurrence ++ later) ∧
          request.controls = request'.controls ∧ request.index = request'.index) ∧
    (∀ (collection : Collection) (options options' : OptionSet) (request request' : Request),
      compile configuration collection options = .ok request →
      compile configuration collection options' = .ok request' →
        (options.AgreeOutside Controls.options options' → request.query = request'.query) ∧
        (options.AgreeOn Controls.options options' → request.controls = request'.controls)) := by
  refine ⟨fun facet a b h => Facet.contribution_congr h configuration, ?_, ?_⟩
  · intro collection facet options options' request request' hfacet hrequest hrequest' hagree
    obtain ⟨settings, h, rfl⟩ := compile_eq_ok_iff.mp hrequest
    obtain ⟨settings', h', rfl⟩ := compile_eq_ok_iff.mp hrequest'
    have hsettings : ∀ name, name ∉ facet.options → settings.get? name = settings'.get? name :=
      fun name hname => Schema.get?_settings_congr h h' (hagree name hname)
    obtain ⟨earlier, later, hquery, hquery'⟩ :=
      Collection.query_split hfacet configuration hsettings
    refine ⟨settings, settings', h, h', ?_, ?_, rfl⟩
    · intro occurrence
      refine ⟨earlier.clauses occurrence, later.clauses occurrence, ?_, ?_⟩
      · simp only [Collection.request, hquery, BooleanQuery.clauses_append, List.append_assoc]
      · simp only [Collection.request, hquery', BooleanQuery.clauses_append, List.append_assoc]
    · exact Collection.controls_eq_of_facet hfacet h h' hagree
  · intro collection options options' request request' hrequest hrequest'
    obtain ⟨settings, h, rfl⟩ := compile_eq_ok_iff.mp hrequest
    obtain ⟨settings', h', rfl⟩ := compile_eq_ok_iff.mp hrequest'
    constructor
    · intro hagree
      exact Collection.query_eq_of_controls h h' hagree
    · intro hagree
      exact Collection.controls_eq_of_agreeOn h h' hagree

/-- Asking for messages outside a workflow instead of those in one keeps the controls and index. -/
theorem workflow_flag_keeps_controls :
    ∃ request request' : Request,
      compile {} .messages (NameMap.ofList [("limit", .int 5), ("workflow", .bool true)]) =
        .ok request ∧
      compile {} .messages (NameMap.ofList [("limit", .int 5), ("workflow", .bool false)]) =
        .ok request' ∧
      request.controls = request'.controls ∧ request.index = request'.index := by
  have haccepted (truth : Bool) : ∃ request, compile {} .messages (NameMap.ofList
      [("limit", .int 5), ("workflow", .bool truth)]) = .ok request := by
    apply exists_request_ofList
    simp only [List.forall_mem_cons, List.not_mem_nil, false_imp_iff, implies_true, and_true]
    exact ⟨⟨.count, by decide +kernel, .count (by decide)⟩,
      ⟨.flag, by decide +kernel, .flag (.bool truth)⟩⟩
  obtain ⟨request, hrequest⟩ := haccepted true
  obtain ⟨request', hrequest'⟩ := haccepted false
  have hagree : OptionSet.AgreeOutside ["workflow"]
      (NameMap.ofList [("limit", .int 5), ("workflow", .bool true)])
      (NameMap.ofList [("limit", .int 5), ("workflow", .bool false)]) := by
    intro name hname
    have hne : name ≠ "workflow" := mt List.mem_singleton.mpr hname
    have hget (truth : Bool) :
        (NameMap.ofList [("limit", .int 5), ("workflow", .bool truth)]).get? name =
          (NameMap.ofList [("limit", Supplied.int 5)]).get? name :=
      (NameMap.get?_insert _ "workflow" name _).trans (if_neg hne)
    rw [hget, hget]
  obtain ⟨-, hfacet, -⟩ := facets_do_not_interfere {}
  obtain ⟨_, _, -, -, -, hcontrols, hindex⟩ :=
    hfacet .messages (.flag "workflow" (.present "workflow_id") .filter) _ _ _ _
      (by decide +kernel) hrequest hrequest' hagree
  exact ⟨request, request', hrequest, hrequest', hcontrols, hindex⟩

end FacetedSearch
