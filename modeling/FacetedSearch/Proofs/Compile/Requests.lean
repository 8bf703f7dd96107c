import FacetedSearch.Compiler
import FacetedSearch.Proofs.Facet.Contribution
import FacetedSearch.Proofs.Schema.Acceptance

/-!
# Requests facet by facet

No option of a collection is declared twice, so every option has the shape that its
one facet, or the controls, declare for it, and at most one contribution depends on it. The
query of a request can then be split at that contribution.
-/

namespace FacetedSearch

/-- The names of the options for the controls. -/
def Controls.options : List String := Controls.declarations.map (·.name)

namespace Collection

/-- No option is declared twice. -/
theorem nodup_names (collection : Collection) :
    (collection.declarations.map (·.name)).Nodup := by
  cases collection <;> decide +kernel

/-- The names of the options of the facets, and of those for the controls. -/
theorem names_eq (collection : Collection) :
    collection.declarations.map (·.name) =
      collection.facets.flatMap Facet.options ++ Controls.options := by
  rw [declarations, List.map_append, List.map_flatMap]
  rfl

/-- The options for the controls belong to every collection. -/
theorem mem_declarations_of_control (collection : Collection) {declaration : Declaration}
    (h : declaration ∈ Controls.declarations) : declaration ∈ collection.declarations :=
  List.mem_append_right _ h

/-- An option of a collection has the shape that is declared for it. -/
theorem get?_shapes_iff {collection : Collection} {name : String} {shape : Shape} :
    collection.schema.shapes.get? name = some shape ↔
      ⟨name, shape⟩ ∈ collection.declarations := by
  have hnodup : ((collection.declarations.map fun declaration =>
      (declaration.name, declaration.shape)).map (·.1)).Nodup := by
    rw [List.map_map]
    exact collection.nodup_names
  rw [schema, Schema.ofDeclarations, NameMap.get?_ofList_of_nodup hnodup, List.mem_map]
  constructor
  · rintro ⟨⟨other, otherShape⟩, hmem, heq⟩
    obtain ⟨rfl, rfl⟩ := Prod.mk.inj heq
    exact hmem
  · intro hmem
    exact ⟨⟨name, shape⟩, hmem, rfl⟩

/-- The options of a facet have the shapes that the facet declares. -/
theorem get?_shapes_of_facet {collection : Collection} {facet : Facet}
    (hfacet : facet ∈ collection.facets) {declaration : Declaration}
    (h : declaration ∈ facet.declarations) :
    collection.schema.shapes.get? declaration.name = some declaration.shape := by
  rw [get?_shapes_iff, declarations]
  exact List.mem_append_left _ (List.mem_flatMap.mpr ⟨facet, hfacet, h⟩)

/-- The identities of a collection read options for identifiers. -/
theorem shape_of_identity {collection : Collection} {source : IdentifierOption} {shape : Shape}
    (h : .identity source shape ∈ collection.facets) :
    shape = .reference ∨ shape = .references := by
  cases collection with
  | transactions =>
    simp [facets, transactionFacets] at h
    grind
  | messages =>
    simp [facets, messageFacets] at h
    grind

/-- The controls read none of the options of a facet. -/
theorem not_mem_controls {collection : Collection} {facet : Facet}
    (hfacet : facet ∈ collection.facets) {name : String} (hname : name ∈ facet.options) :
    name ∉ Controls.options := by
  have hnodup := collection.nodup_names
  rw [names_eq, List.nodup_append] at hnodup
  intro hcontrols
  exact hnodup.2.2 name (List.mem_flatMap.mpr ⟨facet, hfacet, hname⟩) name hcontrols rfl

/-- Each facet reads options that no other facet of its collection reads. -/
theorem facets_split {collection : Collection} {facet : Facet}
    (hfacet : facet ∈ collection.facets) :
    ∃ before after, collection.facets = before ++ facet :: after ∧
      ∀ other ∈ before ++ after, ∀ name ∈ other.options, name ∉ facet.options := by
  obtain ⟨before, after, hfacets⟩ := List.append_of_mem hfacet
  refine ⟨before, after, hfacets, ?_⟩
  have hnodup := collection.nodup_names
  rw [names_eq, hfacets, List.flatMap_append, List.flatMap_cons] at hnodup
  obtain ⟨hnodup, -, -⟩ := List.nodup_append.mp hnodup
  obtain ⟨-, hlater, hbefore⟩ := List.nodup_append.mp hnodup
  obtain ⟨-, -, hafter⟩ := List.nodup_append.mp hlater
  intro other hother name hname hfacetName
  rcases List.mem_append.mp hother with hmem | hmem
  · have hearly := List.mem_flatMap.mpr ⟨other, hmem, hname⟩
    exact hbefore name hearly name (List.mem_append_left _ hfacetName) rfl
  · have hlate := List.mem_flatMap.mpr ⟨other, hmem, hname⟩
    exact hafter name hfacetName name hlate rfl

/-- The query of a collection is split at one contribution, for two settings at once. -/
theorem query_split {collection : Collection} {facet : Facet}
    (hfacet : facet ∈ collection.facets) (configuration : Configuration) {a b : Settings}
    (h : ∀ name, name ∉ facet.options → a.get? name = b.get? name) :
    ∃ earlier later : BooleanQuery,
      collection.query configuration a =
        earlier.append ((facet.contribution a configuration).append later) ∧
      collection.query configuration b =
        earlier.append ((facet.contribution b configuration).append later) := by
  obtain ⟨before, after, hfacets, hothers⟩ := facets_split hfacet
  have hsame (facets : List Facet) (hsub : ∀ other ∈ facets, other ∈ before ++ after) :
      facets.map (·.contribution b configuration) =
        facets.map (·.contribution a configuration) := by
    apply List.map_congr_left
    intro other hother
    apply Facet.contribution_congr
    intro name hname
    exact (h name (hothers other (hsub other hother) name hname)).symm
  refine ⟨.concat (before.map (·.contribution a configuration)),
    .concat (after.map (·.contribution a configuration)), ?_, ?_⟩
  · rw [query, hfacets, List.map_append, List.map_cons, BooleanQuery.concat_append,
      BooleanQuery.concat_cons]
  · rw [query, hfacets, List.map_append, List.map_cons, BooleanQuery.concat_append,
      BooleanQuery.concat_cons, hsame before fun _ => List.mem_append_left after,
      hsame after fun _ => List.mem_append_right before]

/-- A clause of the query is one that a facet contributes to the same list. -/
theorem mem_clauses_query_iff {collection : Collection} {configuration : Configuration}
    {settings : Settings} {occurrence : Occurrence} {clause : Clause} :
    clause ∈ (collection.query configuration settings).clauses occurrence ↔
      ∃ facet ∈ collection.facets,
        clause ∈ (facet.contribution settings configuration).clauses occurrence := by
  rw [query, BooleanQuery.clauses_concat, List.flatMap_map, List.mem_flatMap]

/-- The query of a collection depends on the settings of the facets' options. -/
theorem query_congr {collection : Collection} {configuration : Configuration} {a b : Settings}
    (h : a.AgreeOn (collection.facets.flatMap Facet.options) b) :
    collection.query configuration a = collection.query configuration b := by
  rw [query, query]
  congr 1
  apply List.map_congr_left
  intro facet hfacet
  apply Facet.contribution_congr
  intro name hname
  exact h name (List.mem_flatMap.mpr ⟨facet, hfacet, hname⟩)

end Collection

/-- The controls depend on the settings of their own options. -/
theorem Controls.ofSettings_congr {a b : Settings} (h : a.AgreeOn Controls.options b) :
    Controls.ofSettings a = Controls.ofSettings b := by
  rw [ofSettings, ofSettings, Settings.count_congr (h "offset" (by decide)),
    Settings.count_congr (h "limit" (by decide)), Settings.document_congr (h "sort" (by decide)),
    Settings.document_congr (h "fields" (by decide)),
    Settings.document_congr (h "aggregations" (by decide)),
    Settings.flag_congr (h "track_total_hits" (by decide))]

/-- The options of one facet change a request only if they change what the facet contributes. -/
theorem Collection.request_eq_of_contribution {collection : Collection} {facet : Facet}
    (hfacet : facet ∈ collection.facets) {configuration : Configuration} {a b : Settings}
    (hagree : ∀ name, name ∉ facet.options → a.get? name = b.get? name)
    (h : facet.contribution a configuration = facet.contribution b configuration) :
    collection.request configuration a = collection.request configuration b := by
  obtain ⟨earlier, later, hquery, hquery'⟩ := query_split hfacet configuration hagree
  have hcontrols : Controls.ofSettings a = Controls.ofSettings b := by
    apply Controls.ofSettings_congr
    intro name hname
    exact hagree name fun hmem => not_mem_controls hfacet hmem hname
  rw [request, request, hquery, hquery', hcontrols, h]

/-- Compiling gives the request of the settings, if the options have settings. -/
theorem compile_eq_ok_iff {configuration : Configuration} {collection : Collection}
    {options : OptionSet} {request : Request} :
    compile configuration collection options = .ok request ↔
      ∃ settings, collection.schema.settings options = .ok settings ∧
        request = collection.request configuration settings := by
  rw [compile]
  cases collection.schema.settings options with
  | error error => simp [Except.map]
  | ok settings => simp [Except.map, eq_comm]

/-- There is a request exactly if the schema of the collection takes every option. -/
theorem exists_request_iff {configuration : Configuration} {collection : Collection}
    {options : OptionSet} :
    (∃ request, compile configuration collection options = .ok request) ↔
      ∀ name value, options.get? name = some value → collection.schema.Takes name value := by
  rw [← Schema.exists_settings_eq_ok_iff]
  constructor
  · rintro ⟨request, hrequest⟩
    obtain ⟨settings, hsettings, -⟩ := compile_eq_ok_iff.mp hrequest
    exact ⟨settings, hsettings⟩
  · rintro ⟨settings, hsettings⟩
    exact ⟨collection.request configuration settings,
      compile_eq_ok_iff.mpr ⟨settings, hsettings, rfl⟩⟩

/-- There is a request for options that are all declared, each with a value that is taken. -/
theorem exists_request_ofList (configuration : Configuration) {collection : Collection}
    {pairs : List (String × Supplied)}
    (h : ∀ pair ∈ pairs, ∃ shape : Shape,
      ⟨pair.1, shape⟩ ∈ collection.declarations ∧ shape.Takes pair.2) :
    ∃ request, compile configuration collection (NameMap.ofList pairs) = .ok request := by
  rw [exists_request_iff, ← Schema.exists_settings_eq_ok_iff]
  apply Schema.exists_settings_ofList
  intro pair hpair
  obtain ⟨shape, hdeclared, htakes⟩ := h pair hpair
  exact ⟨shape, Collection.get?_shapes_iff.mpr hdeclared, htakes⟩

/-- Values that are read alike give the same request or the same error. -/
theorem compile_insert_congr {configuration : Configuration} {collection : Collection}
    {options : OptionSet} {name : String} {shape : Shape}
    (hname : ⟨name, shape⟩ ∈ collection.declarations) {value value' : Supplied}
    (h : shape.read value = shape.read value') :
    compile configuration collection (options.insert name value) =
      compile configuration collection (options.insert name value') := by
  have hread : collection.schema.read name value = collection.schema.read name value' :=
    Schema.read_congr (Collection.get?_shapes_iff.mpr hname) h
  rw [compile, compile, Schema.settings_insert_congr hread]

end FacetedSearch
