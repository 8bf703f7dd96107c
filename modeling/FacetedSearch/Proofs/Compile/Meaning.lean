import FacetedSearch.Proofs.Compile.Requests
import FacetedSearch.Proofs.Facet.FreeText
import FacetedSearch.Proofs.Facet.Selection
import FacetedSearch.Proofs.Schema.Settings

/-!
# The meaning of a request

Which records a request selects, said of the supplied values alone: without settings,
clauses or the order in which they are appended. A record is selected exactly if every facet of
the collection accepts it.
-/

namespace FacetedSearch

universe u

variable {Record : Type u}

namespace IdentifierOption

/-- The supplied value of an option denotes no identifier. -/
def IsUnset (source : IdentifierOption) (options : OptionSet) : Prop :=
  ∀ id, ¬ (options.value source.option).Denotes id

/-- The field of an option has an identifier that the supplied value denotes. -/
def Finds (source : IdentifierOption) (model : RecordModel Record) (options : OptionSet)
    (record : Record) : Prop :=
  ∃ id, (options.value source.option).Denotes id ∧ id.toJson ∈ model.values record source.field

end IdentifierOption

namespace FreeText

/--
A seller's text that is not blank asks for all words of its phrase, if it is quoted, and else for a
resemblance, for an address equal to it or for a serial equal to it in capitals.
-/
def SellerAccepts (box : SellerBox) (fuzziness : String) (model : RecordModel Record)
    (record : Record) (text : String) : Prop :=
  (∀ inner, IsQuoted (canonical text) inner → Text.trim inner ≠ [] →
    model.HasWords record box.phraseField (String.ofList (Text.trim inner)) .all) ∧
  (canonical text ≠ [] → (∀ inner, ¬ IsQuoted (canonical text) inner) →
    model.Resembles record box.fuzzyFields (String.ofList (canonical text)) fuzziness ∨
    ('@' ∈ canonical text ∧ ∃ field ∈ box.emailFields,
      Json.string (String.ofList (canonical text)) ∈ model.values record field) ∨
    (IsSerial (canonical text) ∧
      Json.string (String.ofList ((canonical text).map Char.toUpper)) ∈
        model.values record box.serialField))

/-- A buyer's text that is not blank asks for a resemblance. -/
def BuyerAccepts (box : BuyerBox) (fuzziness : String) (model : RecordModel Record)
    (record : Record) (text : String) : Prop :=
  canonical text ≠ [] →
    model.Resembles record box.fuzzyFields (String.ofList (canonical text)) fuzziness

/-- The records that fit a seller's text are those that it accepts. -/
theorem sellerFits_iff (box : SellerBox) (fuzziness : String) (model : RecordModel Record)
    (record : Record) (text : String) :
    SellerFits box fuzziness model record text ↔
      SellerAccepts box fuzziness model record text := by
  simp only [SellerFits, SellerAccepts]
  cases hphrase : phrase? (canonical text) with
  | none =>
    have hquoted := phrase?_eq_none_iff.mp hphrase
    simp only [fits_serialPattern_iff]
    constructor
    · intro h
      refine ⟨fun inner hinner => absurd hinner (hquoted inner), fun hne _ => ?_⟩
      exact h.resolve_left hne
    · rintro ⟨-, h⟩
      by_cases hempty : canonical text = []
      · exact Or.inl hempty
      · exact Or.inr (h hempty hquoted)
  | some phrase =>
    obtain ⟨inner, hinner, rfl⟩ := phrase?_eq_some_iff.mp hphrase
    constructor
    · intro h
      refine ⟨fun other hother hne => ?_, fun _ hnot => absurd hinner (hnot inner)⟩
      rw [hother.inner_eq hinner] at hne ⊢
      exact h.resolve_left hne
    · rintro ⟨h, -⟩
      by_cases hempty : Text.trim inner = []
      · exact Or.inl hempty
      · exact Or.inr (h inner hinner hempty)

/-- The records that fit a buyer's text are those that it accepts. -/
theorem buyerFits_iff (box : BuyerBox) (fuzziness : String) (model : RecordModel Record)
    (record : Record) (text : String) :
    BuyerFits box fuzziness model record text ↔ BuyerAccepts box fuzziness model record text := by
  simp only [BuyerFits, BuyerAccepts]
  constructor
  · intro h hne
    exact h.resolve_left hne
  · intro h
    by_cases hempty : canonical text = []
    · exact Or.inl hempty
    · exact Or.inr (h hempty)

end FreeText

/-- A field has a value within a bound, if the value supplied for the bound is a number. -/
def RecordModel.WithinNumber (model : RecordModel Record) (record : Record) (field : String)
    (bound : Bound) (value : Supplied) : Prop :=
  ∀ n, value.number? = some n → model.Within record field bound (.number n)

/-- A field has a value within a bound, if the value supplied for the bound denotes a moment. -/
def RecordModel.WithinMoment (model : RecordModel Record) (record : Record) (field : String)
    (bound : Bound) (value : Supplied) : Prop :=
  ∀ t, value.instant? = some t → model.Within record field bound (.string t.canonical)

/-- A facet accepts a record for the supplied values of its options. -/
def Facet.Accepts (facet : Facet) (model : RecordModel Record) (options : OptionSet)
    (configuration : Configuration) (record : Record) : Prop :=
  match facet with
  | .identity source _ => source.IsUnset options ∨ source.Finds model options record
  | .anyOf sources =>
    (∀ source ∈ sources, source.IsUnset options) ∨
      ∃ source ∈ sources, source.Finds model options record
  | .exclusion source => ¬ source.Finds model options record
  | .flag option condition whenTrue =>
    ((options.value option).Says true → whenTrue.Demands (condition.Holds model record)) ∧
      ((options.value option).Says false → ¬ condition.Holds model record)
  | .switch option condition occurrence =>
    (options.value option).Says true → occurrence.Demands (condition.Holds model record)
  | .numericRange field greaterThan lessThan =>
    model.WithinNumber record field .above (options.value greaterThan) ∧
      model.WithinNumber record field .below (options.value lessThan)
  | .dateRange field after onOrAfter before onOrBefore =>
    model.WithinMoment record field .above (options.value after) ∧
      model.WithinMoment record field .atLeast (options.value onOrAfter) ∧
      model.WithinMoment record field .below (options.value before) ∧
      model.WithinMoment record field .atMost (options.value onOrBefore)
  | .sellerText box =>
    ∀ text, options.value box.option = .text text →
      FreeText.SellerAccepts box configuration.fuzziness model record text
  | .buyerText box =>
    ∀ text, options.value box.option = .text text →
      FreeText.BuyerAccepts box configuration.fuzziness model record text

/-! ### Settings and supplied values -/

section Reading

variable {schema : Schema} {options : OptionSet} {settings : Settings}
  {model : RecordModel Record} {record : Record}

/-- A set of identifiers is empty exactly if the value denotes no identifier. -/
theorem IdentifierOption.isEmpty_iff_isUnset (h : schema.settings options = .ok settings)
    {source : IdentifierOption} {shape : Shape}
    (hshape : schema.shapes.get? source.option = some shape)
    (hids : shape = .reference ∨ shape = .references) :
    (settings.ids source.option).isEmpty = true ↔ source.IsUnset options := by
  rw [IdentifierSet.isEmpty, List.isEmpty_iff, List.eq_nil_iff_forall_not_mem]
  exact forall_congr' fun id => not_congr (Schema.mem_ids_iff h hshape hids id)

/-- A field has one of the identifiers exactly if it has one that the value denotes. -/
theorem IdentifierOption.meets_iff_finds (h : schema.settings options = .ok settings)
    {source : IdentifierOption} {shape : Shape}
    (hshape : schema.shapes.get? source.option = some shape)
    (hids : shape = .reference ∨ shape = .references) :
    source.Meets model settings record ↔ source.Finds model options record := by
  apply exists_congr
  intro id
  rw [Schema.mem_ids_iff h hshape hids]

/-- The bound of a number that is set is the bound of the number supplied. -/
theorem RecordModel.withinNumber_iff (h : schema.settings options = .ok settings) {option : String}
    (hshape : schema.shapes.get? option = some .number) (field : String) (bound : Bound) :
    (∀ value, (settings.number option).map Json.number = some value →
        model.Within record field bound value) ↔
      model.WithinNumber record field bound (options.value option) := by
  simp only [WithinNumber, Schema.number_eq h hshape, Option.map_eq_some_iff,
    forall_exists_index, and_imp, forall_apply_eq_imp_iff₂]

/-- The bound of a moment that is set is the bound of the moment supplied, in canonical form. -/
theorem RecordModel.withinMoment_iff (h : schema.settings options = .ok settings) {option : String}
    (hshape : schema.shapes.get? option = some .moment) (field : String) (bound : Bound) :
    (∀ value, (settings.moment option).map Json.string = some value →
        model.Within record field bound value) ↔
      model.WithinMoment record field bound (options.value option) := by
  simp only [WithinMoment, Schema.moment_eq h hshape, Option.map_map, Option.map_eq_some_iff,
    forall_exists_index, and_imp, forall_apply_eq_imp_iff₂, Function.comp_apply]

/-- A facet of a schema admits for its settings what it accepts for the supplied values. -/
theorem Facet.admits_iff_accepts {facet : Facet} {configuration : Configuration}
    (h : schema.settings options = .ok settings)
    (hshapes : ∀ declaration ∈ facet.declarations,
      schema.shapes.get? declaration.name = some declaration.shape)
    (hidentity : ∀ source shape, facet = .identity source shape →
      shape = .reference ∨ shape = .references) :
    facet.Admits model settings configuration record ↔
      facet.Accepts model options configuration record := by
  cases facet with
  | identity source shape =>
    have hshape := hshapes ⟨source.option, shape⟩ (List.mem_singleton.mpr rfl)
    have hids := hidentity source shape rfl
    rw [Admits, Accepts, IdentifierOption.isEmpty_iff_isUnset h hshape hids,
      IdentifierOption.meets_iff_finds h hshape hids]
  | anyOf sources =>
    have hshape : ∀ source ∈ sources,
        schema.shapes.get? source.option = some .references := by
      intro source hsource
      exact hshapes ⟨source.option, .references⟩ (List.mem_map.mpr ⟨source, hsource, rfl⟩)
    rw [Admits, Accepts]
    apply or_congr
    · apply forall₂_congr
      intro source hsource
      exact IdentifierOption.isEmpty_iff_isUnset h (hshape source hsource) (Or.inr rfl)
    · apply exists_congr
      intro source
      apply and_congr_right
      intro hsource
      exact IdentifierOption.meets_iff_finds h (hshape source hsource) (Or.inr rfl)
  | exclusion source =>
    have hshape := hshapes ⟨source.option, .references⟩ (List.mem_singleton.mpr rfl)
    rw [Admits, Accepts, IdentifierOption.meets_iff_finds h hshape (Or.inr rfl)]
  | flag option condition whenTrue =>
    have hshape := hshapes ⟨option, .flag⟩ (List.mem_singleton.mpr rfl)
    simp only [Admits, Accepts, Schema.flag_eq h hshape, ← Supplied.truth?_eq_some_iff]
    cases (options.value option).truth? with
    | none => simp
    | some truth => cases truth <;> simp
  | switch option condition occurrence =>
    have hshape := hshapes ⟨option, .switch⟩ (List.mem_singleton.mpr rfl)
    rw [Admits, Accepts, Schema.switch_iff h hshape, Supplied.truth?_eq_some_iff]
  | numericRange field greaterThan lessThan =>
    have hbounds : (numericRange field greaterThan lessThan).Admits model settings configuration
        record ↔ ∀ bound ∈ numericBounds greaterThan lessThan,
          model.WithinNumber record field bound.2 (options.value bound.1) := by
      apply forall₂_congr
      intro bound hbound
      have hshape := hshapes ⟨bound.1, .number⟩ (List.mem_map.mpr ⟨bound, hbound, rfl⟩)
      exact RecordModel.withinNumber_iff h hshape field bound.2
    rw [hbounds]
    simp [Accepts, numericBounds]
  | dateRange field after onOrAfter before onOrBefore =>
    have hbounds : (dateRange field after onOrAfter before onOrBefore).Admits model settings
        configuration record ↔ ∀ bound ∈ dateBounds after onOrAfter before onOrBefore,
          model.WithinMoment record field bound.2 (options.value bound.1) := by
      apply forall₂_congr
      intro bound hbound
      have hshape := hshapes ⟨bound.1, .moment⟩ (List.mem_map.mpr ⟨bound, hbound, rfl⟩)
      exact RecordModel.withinMoment_iff h hshape field bound.2
    rw [hbounds]
    simp [Accepts, dateBounds]
  | sellerText box =>
    have hshape := hshapes ⟨box.option, .text⟩ (List.mem_singleton.mpr rfl)
    simp only [Admits, Accepts, Schema.text_eq h hshape, Supplied.text?_eq_some_iff,
      FreeText.sellerFits_iff]
  | buyerText box =>
    have hshape := hshapes ⟨box.option, .text⟩ (List.mem_singleton.mpr rfl)
    simp only [Admits, Accepts, Schema.text_eq h hshape, Supplied.text?_eq_some_iff,
      FreeText.buyerFits_iff]

end Reading

/--
The meaning of a request, for any model of records: it selects the records that every facet
of the collection accepts for the supplied values.
-/
theorem request_selects_iff {configuration : Configuration} {collection : Collection}
    {options : OptionSet} {request : Request} (model : RecordModel Record) (record : Record)
    (h : compile configuration collection options = .ok request) :
    request.query.Holds model record ↔
      ∀ facet ∈ collection.facets, facet.Accepts model options configuration record := by
  obtain ⟨settings, hsettings, rfl⟩ := compile_eq_ok_iff.mp h
  have hminimum : ∀ query ∈ collection.facets.map (·.contribution settings configuration),
      query.minimum = none := by
    intro query hquery
    obtain ⟨facet, -, rfl⟩ := List.mem_map.mp hquery
    exact Facet.minimum_contribution facet settings configuration
  simp only [Collection.request, Collection.query, BooleanQuery.holds_concat hminimum,
    List.forall_mem_map, Facet.holds_contribution_iff_admits]
  apply forall₂_congr
  intro facet hfacet
  apply Facet.admits_iff_accepts hsettings
  · intro declaration hdeclaration
    exact Collection.get?_shapes_of_facet hfacet hdeclaration
  · rintro source shape rfl
    exact Collection.shape_of_identity hfacet

/--
Messages that belong to a workflow and messages that do not are asked for at once, and no
record is selected.
-/
theorem no_message_in_and_outside_workflow :
    ∃ request, compile {} .messages (NameMap.ofList [("workflow", .bool true),
        ("exclude_workflow_messages", .text "TRUE")]) = .ok request ∧
      ∀ (model : RecordModel Nat) (record : Nat), ¬ request.query.Holds model record := by
  obtain ⟨request, hrequest⟩ : ∃ request, compile {} .messages (NameMap.ofList
      [("workflow", .bool true), ("exclude_workflow_messages", .text "TRUE")]) = .ok request := by
    apply exists_request_ofList
    simp only [List.forall_mem_cons, List.not_mem_nil, false_imp_iff, implies_true, and_true]
    exact ⟨⟨.flag, by decide +kernel, .flag (.bool true)⟩,
      ⟨.switch, by decide +kernel, .switch (.yes (by decide +kernel))⟩⟩
  refine ⟨request, hrequest, ?_⟩
  intro model record hholds
  have haccepts := (request_selects_iff model record hrequest).mp hholds
  have hinside := (haccepts (.flag "workflow" (.present "workflow_id") .filter)
    (by decide +kernel)).1 (.bool true)
  have houtside := haccepts (.switch "exclude_workflow_messages" (.present "workflow_id") .mustNot)
    (by decide +kernel) (.yes (by decide +kernel))
  exact houtside hinside

end FacetedSearch
