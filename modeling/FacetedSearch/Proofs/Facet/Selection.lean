import FacetedSearch.Proofs.Facet.Contribution

/-!
# What facets select

The contribution of a facet holds of exactly the records that the facet admits. The
cases are those of the facets: a set of identifiers asks for one of them, an exclusion for
none, a flag or switch for what its list demands, a range for every bound that is set,
and a text for what the search box makes of it.
-/

namespace FacetedSearch

universe u

variable {Record : Type u} {model : RecordModel Record} {record : Record}

/-- The clause of a condition holds exactly if the condition does. -/
@[simp] theorem Condition.holds_clause (condition : Condition) :
    condition.clause.Holds model record ↔ condition.Holds model record := by
  cases condition <;> rfl

namespace IdentifierOption

variable {source : IdentifierOption} {settings : Settings}

/-- Only an empty set of identifiers has no clause. -/
theorem clause?_eq_none_iff : source.clause? settings = none ↔
    (settings.ids source.option).isEmpty = true := by
  simp [clause?]

/-- The clause of a set of identifiers holds if the field has one of them. -/
theorem holds_of_clause?_eq_some {clause : Clause} (h : source.clause? settings = some clause) :
    clause.Holds model record ↔ source.Meets model settings record := by
  simp only [clause?] at h
  split at h
  · simp at h
  · obtain rfl := Option.some.inj h
    simp only [Clause.Holds, Meets, List.mem_map, exists_exists_and_eq_and]

/-- A field has none of the identifiers of an empty set. -/
theorem not_meets_of_isEmpty (h : (settings.ids source.option).isEmpty = true) :
    ¬ source.Meets model settings record := by
  have hmembers : (settings.ids source.option).members = [] := List.isEmpty_iff.mp h
  rintro ⟨id, hid, -⟩
  rw [hmembers] at hid
  exact List.not_mem_nil hid

end IdentifierOption

namespace FreeText

/-- The alternatives of a seller's text: it resembles, is an address, or is a serial. -/
theorem exists_sellerAlternatives_holds (box : SellerBox) (fuzziness : String)
    (text : List Char) :
    (∃ clause ∈ sellerAlternatives box fuzziness text, clause.Holds model record) ↔
      model.Resembles record box.fuzzyFields (String.ofList text) fuzziness ∨
        ('@' ∈ text ∧ ∃ field ∈ box.emailFields,
          Json.string (String.ofList text) ∈ model.values record field) ∨
        (fits serialPattern text = true ∧
          Json.string (String.ofList (text.map Char.toUpper)) ∈
            model.values record box.serialField) := by
  have hemail : (∃ clause ∈ (if '@' ∈ text then box.emailFields.map fun field =>
        Clause.term field (.string (String.ofList text)) else []), clause.Holds model record) ↔
      '@' ∈ text ∧ ∃ field ∈ box.emailFields,
        Json.string (String.ofList text) ∈ model.values record field := by
    split
    · next hat => simp [hat, Clause.Holds]
    · next hat => simp [hat]
  have hserial : (∃ clause ∈ (if fits serialPattern text = true then
        [Clause.term box.serialField (.string (String.ofList (text.map Char.toUpper)))] else []),
        clause.Holds model record) ↔
      fits serialPattern text = true ∧
        Json.string (String.ofList (text.map Char.toUpper)) ∈
          model.values record box.serialField := by
    split
    · next hfits => simp [hfits, Clause.Holds]
    · next hfits => simp [hfits]
  rw [← hemail, ← hserial]
  simp only [sellerAlternatives, List.cons_append, List.mem_cons, List.mem_append,
    or_and_right, exists_or, exists_eq_left, Clause.Holds]

/-- The query of a seller's text holds of the records that fit it. -/
theorem holds_sellerQuery (box : SellerBox) (fuzziness : String) (text : String) :
    (sellerQuery box fuzziness text).Holds model record ↔
      SellerFits box fuzziness model record text := by
  simp only [sellerQuery, SellerFits]
  cases hprepared : canonical text with
  | nil => simpa [phrase?] using BooleanQuery.holds_empty
  | cons c rest =>
    simp only
    cases hphrase : phrase? (c :: rest) with
    | none =>
      have hne : sellerAlternatives box fuzziness (c :: rest) ≠ [] := by simp [sellerAlternatives]
      simp only [BooleanQuery.holds_ofAlternatives, Occurrence.Demands, hne, false_or,
        exists_sellerAlternatives_holds, reduceCtorEq]
    | some phrase =>
      cases phrase with
      | nil => simpa using BooleanQuery.holds_empty
      | cons d inner =>
        simp only [BooleanQuery.holds_single, Occurrence.Demands, Clause.Holds, reduceCtorEq,
          false_or]

/-- The query of a buyer's text holds of the records that fit it. -/
theorem holds_buyerQuery (box : BuyerBox) (fuzziness : String) (text : String) :
    (buyerQuery box fuzziness text).Holds model record ↔
      BuyerFits box fuzziness model record text := by
  simp only [buyerQuery, BuyerFits]
  cases hprepared : canonical text with
  | nil => simpa using BooleanQuery.holds_empty
  | cons c rest =>
    simp only [BooleanQuery.holds_ofAlternatives, Occurrence.Demands, reduceCtorEq, false_or,
      List.mem_singleton, exists_eq_left, Clause.Holds]

end FreeText

namespace Facet

/-- The clauses of the bounds that are set hold of the records within them. -/
theorem forall_boundClauses_holds {field : String} {value? : String → Option Json}
    {bounds : List (String × Bound)} :
    (∀ clause ∈ boundClauses field value? bounds, clause.Holds model record) ↔
      WithinBounds model record field value? bounds := by
  simp only [boundClauses, WithinBounds, List.mem_filterMap, Option.map_eq_some_iff]
  constructor
  · intro h bound hbound value hvalue
    exact h (.range field bound.2 value) ⟨bound, hbound, value, hvalue, rfl⟩
  · rintro h clause ⟨bound, hbound, value, hvalue, rfl⟩
    exact h bound hbound value hvalue

private theorem holds_filter {clauses : List Clause} :
    BooleanQuery.Holds model record { filter := clauses } ↔
      ∀ clause ∈ clauses, clause.Holds model record := by
  rw [BooleanQuery.holds_iff_of_minimum_eq_none rfl]
  simp

/-- The contribution of a facet holds of exactly the records that the facet admits. -/
theorem holds_contribution_iff_admits (facet : Facet) (settings : Settings)
    (configuration : Configuration) :
    (facet.contribution settings configuration).Holds model record ↔
      facet.Admits model settings configuration record := by
  cases facet with
  | identity source shape =>
    rw [contribution, Admits]
    cases hclause : source.clause? settings with
    | none =>
      have hempty := IdentifierOption.clause?_eq_none_iff.mp hclause
      exact iff_of_true BooleanQuery.holds_empty (Or.inl hempty)
    | some clause =>
      have hne : ¬ (settings.ids source.option).isEmpty = true := by
        rw [← IdentifierOption.clause?_eq_none_iff, hclause]
        simp
      simp only [BooleanQuery.holds_single, Occurrence.Demands, hne, Bool.false_eq_true, false_or,
        IdentifierOption.holds_of_clause?_eq_some hclause]
  | anyOf sources =>
    have hnone : sources.filterMap (·.clause? settings) = [] ↔
        ∀ source ∈ sources, (settings.ids source.option).isEmpty = true := by
      simp only [List.filterMap_eq_nil_iff, IdentifierOption.clause?_eq_none_iff]
    have hsome : (∃ clause ∈ sources.filterMap (·.clause? settings),
        clause.Holds model record) ↔ ∃ source ∈ sources, source.Meets model settings record := by
      simp only [List.mem_filterMap]
      constructor
      · rintro ⟨clause, ⟨source, hsource, hclause⟩, hholds⟩
        exact ⟨source, hsource, (IdentifierOption.holds_of_clause?_eq_some hclause).mp hholds⟩
      · rintro ⟨source, hsource, hmeets⟩
        cases hclause : source.clause? settings with
        | none =>
          have hempty := IdentifierOption.clause?_eq_none_iff.mp hclause
          exact absurd hmeets (IdentifierOption.not_meets_of_isEmpty hempty)
        | some clause =>
          exact ⟨clause, ⟨source, hsource, hclause⟩,
            (IdentifierOption.holds_of_clause?_eq_some hclause).mpr hmeets⟩
    rw [contribution, Admits, BooleanQuery.holds_ofAlternatives, hnone]
    simp only [Occurrence.Demands, hsome]
  | exclusion source =>
    rw [contribution, Admits, BooleanQuery.holds_iff_of_minimum_eq_none rfl]
    simp [IdentifierOption.Meets, Clause.Holds]
  | flag option condition whenTrue =>
    rw [contribution, Admits]
    cases settings.flag option with
    | none => exact iff_of_true BooleanQuery.holds_empty trivial
    | some value =>
      cases value with
      | true => simp only [BooleanQuery.holds_single, Condition.holds_clause]
      | false => simp only [BooleanQuery.holds_single, Condition.holds_clause, Occurrence.Demands]
  | switch option condition occurrence =>
    rw [contribution, Admits]
    cases settings.switch option with
    | true => simp only [if_true, BooleanQuery.holds_single, Condition.holds_clause, true_imp_iff]
    | false => simpa using BooleanQuery.holds_empty
  | numericRange field greaterThan lessThan =>
    rw [contribution, Admits, holds_filter, forall_boundClauses_holds]
  | dateRange field after onOrAfter before onOrBefore =>
    rw [contribution, Admits, holds_filter, forall_boundClauses_holds]
  | sellerText box =>
    rw [contribution, Admits]
    cases settings.text box.option with
    | none => simpa using BooleanQuery.holds_empty
    | some text => simpa using FreeText.holds_sellerQuery box configuration.fuzziness text
  | buyerText box =>
    rw [contribution, Admits]
    cases settings.text box.option with
    | none => simpa using BooleanQuery.holds_empty
    | some text => simpa using FreeText.holds_buyerQuery box configuration.fuzziness text

end Facet

end FacetedSearch
