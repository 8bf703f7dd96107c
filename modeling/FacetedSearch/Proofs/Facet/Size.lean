import FacetedSearch.Proofs.Facet.Form
import FacetedSearch.Proofs.Facet.Inertness
import FacetedSearch.Proofs.Text.Trim
import Mathlib.Data.List.Dedup

/-!
# The size of contributions

How many clauses a facet contributes, counted from the values supplied for its options: one for
an identity or a choice of which an identifier was supplied, one for each identifier that is
excluded, one for each flag, bound and switch that is set, and one for a text of which something
is visible.
-/

namespace FacetedSearch

namespace Supplied

/-- The identifiers that a value denotes, blank ones left out, in the order of their items. -/
def identifiers : Supplied → List Identifier
  | .list items => (items.filterMap identifier?).filter fun id => !id.isBlank
  | value => value.identifier?.toList.filter fun id => !id.isBlank

theorem mem_identifiers_iff (value : Supplied) (id : Identifier) :
    id ∈ value.identifiers ↔ value.Denotes id := by
  cases value with
  | list items =>
    simp only [identifiers, List.mem_filter, List.mem_filterMap, Bool.not_eq_true']
    constructor
    · rintro ⟨⟨item, hitem, hid⟩, hblank⟩
      exact .item hitem hid hblank
    · intro h
      cases h with
      | alone hid => simp [identifier?] at hid
      | item hitem hid hblank => exact ⟨⟨_, hitem, hid⟩, hblank⟩
  | _ =>
    simp only [identifiers, List.mem_filter, Option.mem_toList, Bool.not_eq_true']
    constructor
    · rintro ⟨hid, hblank⟩
      exact .alone hid hblank
    · intro h
      cases h with
      | alone hid hblank => exact ⟨hid, hblank⟩

end Supplied

namespace FreeText

/-- Nothing is made of a seller's text of which nothing is visible but two double quotes. -/
theorem isIdleForSeller_iff (text : String) :
    IsIdleForSeller text ↔
      Text.visible text.toList = [] ∨ Text.visible text.toList = ['"', '"'] := by
  rw [IsIdleForSeller, canonical_eq_nil_iff, Text.trim_eq_nil_iff, ← Text.visible_eq_nil_iff,
    phrase?_canonical_eq_nil_iff, Text.trim_eq_quotes_iff]

/-- A seller's text is one clause, unless nothing is made of it. -/
theorem size_sellerQuery (box : SellerBox) (fuzziness text : String) :
    (sellerQuery box fuzziness text).size =
      if Text.visible text.toList = [] ∨ Text.visible text.toList = ['"', '"'] then 0 else 1 := by
  by_cases hidle : IsIdleForSeller text
  · rw [if_pos ((isIdleForSeller_iff text).mp hidle), sellerQuery_of_isIdle box fuzziness hidle,
      BooleanQuery.size_empty]
  · rw [if_neg (mt (isIdleForSeller_iff text).mpr hidle)]
    rcases sellerQuery_cases box fuzziness text with h | ⟨phrase, -, -, hquery⟩ | ⟨-, -, hquery⟩
    · exact absurd h hidle
    · simp [hquery]
    · simp [hquery, sellerAlternatives, BooleanQuery.size_ofAlternatives]

/-- A buyer's text is one clause, unless it is blank. -/
theorem size_buyerQuery (box : BuyerBox) (fuzziness text : String) :
    (buyerQuery box fuzziness text).size = if Text.visible text.toList = [] then 0 else 1 := by
  have hempty : canonical text = [] ↔ Text.visible text.toList = [] := by
    rw [canonical_eq_nil_iff, Text.trim_eq_nil_iff, Text.visible_eq_nil_iff]
  rw [buyerQuery]
  cases hprepared : canonical text with
  | nil => rw [if_pos (hempty.mp hprepared), BooleanQuery.size_empty]
  | cons c rest =>
    have hvisible : Text.visible text.toList ≠ [] := by
      rw [Ne, ← hempty, hprepared]
      exact List.cons_ne_nil c rest
    rw [if_neg hvisible, BooleanQuery.size_ofAlternatives, if_neg (List.cons_ne_nil _ _)]

end FreeText

namespace Schema

variable {schema : Schema} {options : OptionSet} {settings : Settings} {name : String}

/-- An option for identifiers has as many members as different identifiers were supplied. -/
theorem length_ids (h : schema.settings options = .ok settings) {shape : Shape}
    (hshape : schema.shapes.get? name = some shape)
    (hids : shape = .reference ∨ shape = .references) :
    (settings.ids name).members.length = (options.value name).identifiers.dedup.length := by
  -- Both lists have each member once, so it is enough that they have the same members.
  apply List.Perm.length_eq
  rw [List.perm_ext_iff_of_nodup (settings.ids name).nodup_members (List.nodup_dedup _)]
  intro id
  rw [List.mem_dedup, Supplied.mem_identifiers_iff, mem_ids_iff h hshape hids]

/-- An option for identifiers has no member exactly if no identifier was supplied. -/
theorem isEmpty_ids_iff (h : schema.settings options = .ok settings) {shape : Shape}
    (hshape : schema.shapes.get? name = some shape)
    (hids : shape = .reference ∨ shape = .references) :
    (settings.ids name).isEmpty = true ↔ (options.value name).identifiers = [] := by
  simp only [IdentifierSet.isEmpty, List.isEmpty_iff, List.eq_nil_iff_forall_not_mem,
    mem_ids_iff h hshape hids, Supplied.mem_identifiers_iff]

/-- A flag is set unless its value is null. -/
theorem isSome_flag (h : schema.settings options = .ok settings)
    (hshape : schema.shapes.get? name = some .flag) :
    (settings.flag name).isSome = !(options.value name).isNull := by
  rcases settings_cases h hshape with ⟨hnull, hget⟩ | ⟨setting, hvalue, hsetting, hget⟩
  · rw [Settings.flag, hget, hnull]
    rfl
  · obtain ⟨truth, -, rfl⟩ := Option.map_eq_some_iff.mp hsetting
    rw [Settings.flag, hget, eq_false_of_ne_true (mt (Supplied.isNull_iff _).mp hvalue)]
    rfl

/-- A number is set unless its value is null. -/
theorem isSome_number (h : schema.settings options = .ok settings)
    (hshape : schema.shapes.get? name = some .number) :
    (settings.number name).isSome = !(options.value name).isNull := by
  rcases settings_cases h hshape with ⟨hnull, hget⟩ | ⟨setting, hvalue, hsetting, hget⟩
  · rw [Settings.number, hget, hnull]
    rfl
  · obtain ⟨n, -, rfl⟩ := Option.map_eq_some_iff.mp hsetting
    rw [Settings.number, hget, eq_false_of_ne_true (mt (Supplied.isNull_iff _).mp hvalue)]
    rfl

/-- A moment is set unless its value is null. -/
theorem isSome_moment (h : schema.settings options = .ok settings)
    (hshape : schema.shapes.get? name = some .moment) :
    (settings.moment name).isSome = !(options.value name).isNull := by
  rcases settings_cases h hshape with ⟨hnull, hget⟩ | ⟨setting, hvalue, hsetting, hget⟩
  · rw [Settings.moment, hget, hnull]
    rfl
  · obtain ⟨t, -, rfl⟩ := Option.map_eq_some_iff.mp hsetting
    rw [Settings.moment, hget, eq_false_of_ne_true (mt (Supplied.isNull_iff _).mp hvalue)]
    rfl

end Schema

namespace Facet

/-- The number of clauses that supplied options make in a facet. -/
def clauseCount (facet : Facet) (options : OptionSet) : Nat :=
  match facet with
  | .identity source _ => if (options.value source.option).identifiers = [] then 0 else 1
  | .anyOf sources =>
    if ∀ source ∈ sources, (options.value source.option).identifiers = [] then 0 else 1
  | .exclusion source => (options.value source.option).identifiers.dedup.length
  | .flag option _ _ => if (options.value option).isNull then 0 else 1
  | .switch option _ _ => if (options.value option).truth? = some true then 1 else 0
  | .numericRange _ greaterThan lessThan =>
    (numericBounds greaterThan lessThan).countP fun bound => !(options.value bound.1).isNull
  | .dateRange _ after onOrAfter before onOrBefore =>
    (dateBounds after onOrAfter before onOrBefore).countP fun bound =>
      !(options.value bound.1).isNull
  | .sellerText box =>
    match options.value box.option with
    | .text text =>
      if Text.visible text.toList = [] ∨ Text.visible text.toList = ['"', '"'] then 0 else 1
    | _ => 0
  | .buyerText box =>
    match options.value box.option with
    | .text text => if Text.visible text.toList = [] then 0 else 1
    | _ => 0

variable {schema : Schema} {options : OptionSet} {settings : Settings} {facet : Facet}

/-- The bounds of a range are one clause each. -/
theorem size_boundClauses (field : String) (value? : String → Option Json)
    (bounds : List (String × Bound)) :
    BooleanQuery.size { filter := boundClauses field value? bounds } =
      bounds.countP fun bound => (value? bound.1).isSome := by
  simp only [BooleanQuery.size, boundClauses, List.length_filterMap_eq_countP, Option.isSome_map,
    List.length_nil, Nat.add_zero]

/-- A contribution has as many clauses as the supplied options make in the facet. -/
theorem size_contribution (h : schema.settings options = .ok settings)
    (hregular : facet.isRegular = true)
    (hshapes : ∀ declaration ∈ facet.declarations,
      schema.shapes.get? declaration.name = some declaration.shape)
    (configuration : Configuration) :
    (facet.contribution settings configuration).size = facet.clauseCount options := by
  cases facet with
  | identity source shape =>
    have hids : shape = .reference ∨ shape = .references := by simpa [isRegular] using hregular
    have hshape := hshapes ⟨source.option, shape⟩ List.mem_cons_self
    rw [contribution, clauseCount]
    simp only [← Schema.isEmpty_ids_iff h hshape hids]
    cases hclause : source.clause? settings with
    | none =>
      rw [if_pos (IdentifierOption.clause?_eq_none_iff.mp hclause), BooleanQuery.size_empty]
    | some clause =>
      have hsome : ¬ (settings.ids source.option).isEmpty = true := by
        rw [← IdentifierOption.clause?_eq_none_iff, hclause]
        simp
      rw [if_neg hsome, BooleanQuery.size_single]
  | anyOf sources =>
    have hnone : sources.filterMap (·.clause? settings) = [] ↔
        ∀ source ∈ sources, (options.value source.option).identifiers = [] := by
      rw [List.filterMap_eq_nil_iff]
      apply forall₂_congr
      intro source hsource
      have hshape := hshapes ⟨source.option, .references⟩ (List.mem_map_of_mem hsource)
      rw [IdentifierOption.clause?_eq_none_iff, Schema.isEmpty_ids_iff h hshape (Or.inr rfl)]
    rw [contribution, clauseCount, BooleanQuery.size_ofAlternatives]
    simp only [hnone]
  | exclusion source =>
    have hshape := hshapes ⟨source.option, .references⟩ List.mem_cons_self
    rw [contribution, clauseCount, ← Schema.length_ids h hshape (Or.inr rfl)]
    simp [BooleanQuery.size]
  | flag option condition whenTrue =>
    have hsome := Schema.isSome_flag h (hshapes ⟨option, .flag⟩ List.mem_cons_self)
    rw [contribution, clauseCount]
    cases hflag : settings.flag option with
    | none =>
      have hnull : (options.value option).isNull = true := by simpa [hflag] using hsome
      rw [if_pos hnull, BooleanQuery.size_empty]
    | some truth =>
      have hvalue : ¬ (options.value option).isNull = true := by simpa [hflag] using hsome
      rw [if_neg hvalue]
      cases truth with
      | true => exact BooleanQuery.size_single whenTrue condition.clause
      | false => exact BooleanQuery.size_single .mustNot condition.clause
  | switch option condition occurrence =>
    have hon := Schema.switch_iff h (hshapes ⟨option, .switch⟩ List.mem_cons_self)
    rw [contribution, clauseCount]
    simp only [hon]
    split
    · exact BooleanQuery.size_single occurrence condition.clause
    · rfl
  | numericRange field greaterThan lessThan =>
    rw [contribution, clauseCount, size_boundClauses]
    apply List.countP_congr
    intro bound hbound
    rw [Option.isSome_map, Schema.isSome_number h (hshapes _ (List.mem_map_of_mem hbound))]
  | dateRange field after onOrAfter before onOrBefore =>
    rw [contribution, clauseCount, size_boundClauses]
    apply List.countP_congr
    intro bound hbound
    rw [Option.isSome_map, Schema.isSome_moment h (hshapes _ (List.mem_map_of_mem hbound))]
  | sellerText box =>
    have htext := Schema.text_eq h (hshapes ⟨box.option, .text⟩ List.mem_cons_self)
    rw [contribution, clauseCount, htext]
    cases options.value box.option with
    | text text => exact FreeText.size_sellerQuery box configuration.fuzziness text
    | _ => rfl
  | buyerText box =>
    have htext := Schema.text_eq h (hshapes ⟨box.option, .text⟩ List.mem_cons_self)
    rw [contribution, clauseCount, htext]
    cases options.value box.option with
    | text text => exact FreeText.size_buyerQuery box configuration.fuzziness text
    | _ => rfl

end Facet

end FacetedSearch
