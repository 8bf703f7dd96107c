import FacetedSearch.Proofs.Query.Selection
import Mathlib.Data.List.Basic

/-!
# Contributions

What holds of the contribution of every facet: it depends on the settings of the
facet's own options alone, and it has no least number of its own, so that appending
contributions demands each of them.
-/

namespace FacetedSearch

universe u

/-- Two settings are the same at every one of some names. -/
def Settings.AgreeOn (names : List String) (a b : Settings) : Prop :=
  ∀ name ∈ names, a.get? name = b.get? name

namespace Settings

variable {a b : Settings} {name : String}

/-- Settings that agree at every name are equal. -/
theorem ext_get? (h : ∀ name, a.get? name = b.get? name) : a = b := by
  obtain ⟨values⟩ := a
  obtain ⟨values'⟩ := b
  exact congrArg mk (NameMap.ext_get? h)

theorem ids_congr (h : a.get? name = b.get? name) : a.ids name = b.ids name := by
  simp only [ids, h]

theorem flag_congr (h : a.get? name = b.get? name) : a.flag name = b.flag name := by
  simp only [flag, h]

theorem switch_congr (h : a.get? name = b.get? name) : a.switch name = b.switch name := by
  simp only [switch, h]

theorem number_congr (h : a.get? name = b.get? name) : a.number name = b.number name := by
  simp only [number, h]

theorem moment_congr (h : a.get? name = b.get? name) : a.moment name = b.moment name := by
  simp only [moment, h]

theorem text_congr (h : a.get? name = b.get? name) : a.text name = b.text name := by
  simp only [text, h]

theorem count_congr (h : a.get? name = b.get? name) : a.count name = b.count name := by
  simp only [count, h]

theorem document_congr (h : a.get? name = b.get? name) : a.document name = b.document name := by
  simp only [document, h]

end Settings

/-- The clause of an option for identifiers depends on the setting of that option. -/
theorem IdentifierOption.clause?_congr {source : IdentifierOption} {a b : Settings}
    (h : a.get? source.option = b.get? source.option) : source.clause? a = source.clause? b := by
  rw [clause?, clause?, Settings.ids_congr h]

namespace Facet

/-- The names of the options that a facet reads. -/
def options (facet : Facet) : List String := facet.declarations.map (·.name)

/-- Settings that agree but for one option agree outside a facet that reads it. -/
theorem agree_outside {facet : Facet} {name : String} {shape : Shape} {a b : Settings}
    (hname : ⟨name, shape⟩ ∈ facet.declarations)
    (h : ∀ other, other ≠ name → a.get? other = b.get? other) :
    ∀ other, other ∉ facet.options → a.get? other = b.get? other := by
  intro other hother
  apply h
  rintro rfl
  exact hother (List.mem_map.mpr ⟨_, hname, rfl⟩)

/-- The bounds of a range depend on the settings of their options. -/
theorem boundClauses_congr {field : String} {value? value'? : String → Option Json}
    {bounds : List (String × Bound)} (h : ∀ bound ∈ bounds, value? bound.1 = value'? bound.1) :
    boundClauses field value? bounds = boundClauses field value'? bounds := by
  apply List.filterMap_congr
  intro bound hbound
  rw [h bound hbound]

/-- A contribution depends only on the settings of the options that the facet reads. -/
theorem contribution_congr {facet : Facet} {a b : Settings} (h : a.AgreeOn facet.options b)
    (configuration : Configuration) :
    facet.contribution a configuration = facet.contribution b configuration := by
  cases facet with
  | identity source shape =>
    have hsource : a.get? source.option = b.get? source.option :=
      h _ (by simp [options, declarations])
    rw [contribution, contribution, IdentifierOption.clause?_congr hsource]
  | anyOf sources =>
    have hsources : ∀ source ∈ sources, source.clause? a = source.clause? b := by
      intro source hsource
      apply IdentifierOption.clause?_congr
      apply h
      simpa [options, declarations] using ⟨source, hsource, rfl⟩
    rw [contribution, contribution, List.filterMap_congr hsources]
  | exclusion source =>
    have hsource : a.get? source.option = b.get? source.option :=
      h _ (by simp [options, declarations])
    rw [contribution, contribution, Settings.ids_congr hsource]
  | flag option condition whenTrue =>
    have hoption : a.get? option = b.get? option := h _ (by simp [options, declarations])
    rw [contribution, contribution, Settings.flag_congr hoption]
  | switch option condition occurrence =>
    have hoption : a.get? option = b.get? option := h _ (by simp [options, declarations])
    rw [contribution, contribution, Settings.switch_congr hoption]
  | numericRange field greaterThan lessThan =>
    have hbounds : ∀ bound ∈ numericBounds greaterThan lessThan,
        a.number bound.1 = b.number bound.1 := by
      intro bound hbound
      apply Settings.number_congr
      apply h
      simpa [options, declarations] using ⟨bound.2, hbound⟩
    rw [contribution, contribution]
    congr 1
    apply boundClauses_congr
    intro bound hbound
    rw [hbounds bound hbound]
  | dateRange field after onOrAfter before onOrBefore =>
    have hbounds : ∀ bound ∈ dateBounds after onOrAfter before onOrBefore,
        a.moment bound.1 = b.moment bound.1 := by
      intro bound hbound
      apply Settings.moment_congr
      apply h
      simpa [options, declarations] using ⟨bound.2, hbound⟩
    rw [contribution, contribution]
    congr 1
    apply boundClauses_congr
    intro bound hbound
    rw [hbounds bound hbound]
  | sellerText box =>
    have hoption : a.get? box.option = b.get? box.option := h _ (by simp [options, declarations])
    rw [contribution, contribution, Settings.text_congr hoption]
  | buyerText box =>
    have hoption : a.get? box.option = b.get? box.option := h _ (by simp [options, declarations])
    rw [contribution, contribution, Settings.text_congr hoption]

/-! ### No least number -/

theorem minimum_single (occurrence : Occurrence) (clause : Clause) :
    (BooleanQuery.single occurrence clause).minimum = none := by
  cases occurrence <;> rfl

/-- Alternatives are demanded inside a group, so the query around it has no least number. -/
theorem minimum_ofAlternatives (occurrence : Occurrence) (alternatives : List Clause) :
    (BooleanQuery.ofAlternatives occurrence alternatives).minimum = none := by
  cases alternatives with
  | nil => rfl
  | cons clause rest =>
    rw [BooleanQuery.ofAlternatives_cons]
    exact minimum_single occurrence _

/-- No contribution has a least number. -/
theorem minimum_contribution (facet : Facet) (settings : Settings)
    (configuration : Configuration) :
    (facet.contribution settings configuration).minimum = none := by
  cases facet with
  | identity source shape =>
    rw [contribution]
    cases source.clause? settings with
    | none => rfl
    | some clause => exact minimum_single .filter clause
  | anyOf sources => exact minimum_ofAlternatives .filter _
  | exclusion source => rfl
  | flag option condition whenTrue =>
    rw [contribution]
    cases settings.flag option with
    | none => rfl
    | some value =>
      cases value with
      | true => exact minimum_single whenTrue condition.clause
      | false => exact minimum_single .mustNot condition.clause
  | switch option condition occurrence =>
    rw [contribution]
    split
    · exact minimum_single occurrence condition.clause
    · rfl
  | numericRange field greaterThan lessThan => rfl
  | dateRange field after onOrAfter before onOrBefore => rfl
  | sellerText box =>
    rw [contribution]
    cases settings.text box.option with
    | none => rfl
    | some text =>
      simp only [FreeText.sellerQuery]
      split
      · rfl
      · split
        · rfl
        · exact minimum_single .must _
        · exact minimum_ofAlternatives .must _
  | buyerText box =>
    rw [contribution]
    cases settings.text box.option with
    | none => rfl
    | some text =>
      simp only [FreeText.buyerQuery]
      split
      · rfl
      · exact minimum_ofAlternatives .must _

end Facet

end FacetedSearch
