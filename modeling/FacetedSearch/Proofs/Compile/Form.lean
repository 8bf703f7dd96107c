import FacetedSearch.Proofs.Compile.Requests
import FacetedSearch.Proofs.Facet.Size

/-!
# Compiled queries are well formed

Every facet of a collection is regular, and among them are one for alternatives and one search
box. So a compiled query has the form of its parts appended, and each clause in it is due
to an option that was supplied.
-/

namespace FacetedSearch

namespace Collection

variable {collection : Collection} {options : OptionSet} {settings : Settings}

/-- Every facet of a collection is regular. -/
theorem isRegular_of_mem {facet : Facet} (h : facet ∈ collection.facets) :
    facet.isRegular = true := by
  have hall : ∀ facet ∈ collection.facets, facet.isRegular = true := by
    cases collection <;> decide
  exact hall facet h

/-- A collection has one facet for alternatives. -/
theorem sum_groups (collection : Collection) : (collection.facets.map Facet.groups).sum = 1 := by
  cases collection <;> rfl

/-- A collection has one search box. -/
theorem sum_searches (collection : Collection) :
    (collection.facets.map Facet.searches).sum = 1 := by
  cases collection <;> rfl

/-- The query of any settings is well formed. -/
theorem wellFormed_query (collection : Collection) (configuration : Configuration)
    (settings : Settings) : (collection.query configuration settings).WellFormed := by
  have hparts : ∀ facet ∈ collection.facets,
      (facet.contribution settings configuration).FormedWithin facet.groups facet.searches :=
    fun facet hfacet =>
      Facet.formedWithin_contribution (isRegular_of_mem hfacet) settings configuration
  have hquery := BooleanQuery.formedWithin_concat hparts
  rwa [sum_groups, sum_searches] at hquery

/-- A query has as many clauses as the supplied options make in all facets together. -/
theorem size_query (h : collection.schema.settings options = .ok settings)
    (configuration : Configuration) :
    (collection.query configuration settings).size =
      (collection.facets.map (·.clauseCount options)).sum := by
  rw [query, BooleanQuery.size_concat, List.map_map]
  congr 1
  apply List.map_congr_left
  intro facet hfacet
  exact Facet.size_contribution h (isRegular_of_mem hfacet)
    (fun _ => get?_shapes_of_facet hfacet) configuration

end Collection

/--
Every compiled query is well formed and accounts for every option: its clauses are those that
may stand in their lists, with one group of alternatives and one search at most, and there are
exactly as many of them as the supplied options make.
-/
theorem request_accounts_for_options {configuration : Configuration} {collection : Collection}
    {options : OptionSet} {request : Request}
    (h : compile configuration collection options = .ok request) :
    request.query.WellFormed ∧
      request.query.size = (collection.facets.map (·.clauseCount options)).sum := by
  obtain ⟨settings, hsettings, rfl⟩ := compile_eq_ok_iff.mp h
  exact ⟨collection.wellFormed_query configuration settings,
    Collection.size_query hsettings configuration⟩

/--
Two options for alternatives make one clause together, an identifier that is excluded twice and
in two spellings one, and a quoted phrase one; with the flag that is false and the bound there
are six.
-/
theorem purchases_in_six_clauses :
    ∃ request,
      compile {} .transactions (NameMap.ofList
        [ ("any_of_products", .list [.int 1, .text "a"]), ("any_of_variants", .int 7)
        , ("exclude_product", .list
            [.int 5, .text "5", .null, .reference (.raw (.number 5)), .text " "])
        , ("archived", .bool false), ("price_less_than", .int 100)
        , ("seller_query", .text "\"annual plan\"") ]) = .ok request ∧
      request.query.WellFormed ∧ request.query.size = 6 := by
  refine (exists_request_ofList {} ?_).imp fun request hrequest => ⟨hrequest, ?_⟩
  · simp only [List.forall_mem_cons, List.not_mem_nil, false_imp_iff, implies_true, and_true]
    refine ⟨⟨.references, by decide +kernel, .list ?_⟩,
      ⟨.references, by decide +kernel, .alone (.int 7)⟩,
      ⟨.references, by decide +kernel, .list ?_⟩,
      ⟨.flag, by decide +kernel, .flag (.bool false)⟩,
      ⟨.number, by decide +kernel, .int 100⟩, ⟨.text, by decide +kernel, .text _⟩⟩
    · simp only [List.forall_mem_cons, List.not_mem_nil, false_imp_iff, implies_true, and_true]
      exact ⟨Or.inr (.int 1), Or.inr (.text "a")⟩
    · simp only [List.forall_mem_cons, List.not_mem_nil, false_imp_iff, implies_true, and_true,
        true_or, true_and]
      exact ⟨Or.inr (.int 5), Or.inr (.text "5"), Or.inr (.reference _), Or.inr (.text " ")⟩
  · obtain ⟨hformed, hsize⟩ := request_accounts_for_options hrequest
    exact ⟨hformed, hsize.trans (by decide +kernel)⟩

end FacetedSearch
