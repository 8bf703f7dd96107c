import FacetedSearch.Proofs.Facet.Selection
import FacetedSearch.Proofs.Facet.FreeText
import FacetedSearch.Proofs.Query.Equality
import FacetedSearch.Proofs.Schema.Inertness

/-!
# Settings that contribute nothing

What becomes of a contribution when one option is set back to the setting of an option
that was not supplied. It keeps the number of its conditions only if the option had that
setting before, or if it holds a text that the search box makes nothing of. The cases
are those of the facets, and in each the conditions are counted before and after.
-/

namespace FacetedSearch

/-- Settings that differ in one option, which has one setting before and is inert after. -/
structure Settings.Resets (a b : Settings) (name : String) (shape : Shape) (setting : Setting) :
    Prop where
  agree : ∀ other, other ≠ name → a.get? other = b.get? other
  before : a.get? name = some setting
  after : b.get? name = some shape.inert
  yields : shape.Yields setting

namespace Settings.Resets

variable {a b : Settings} {name : String} {shape : Shape} {setting : Setting}

/-- An option that was inert before leaves all settings as they are. -/
theorem eq_of_inert (h : a.Resets b name shape setting) (hinert : setting = shape.inert) :
    a = b := by
  apply ext_get?
  intro other
  by_cases hother : other = name
  · subst hother
    exact (h.before.trans (congrArg some hinert)).trans h.after.symm
  · exact h.agree other hother

/-! ### The option before and after -/

theorem ids_eq (h : a.Resets b name shape setting)
    (hids : shape = .reference ∨ shape = .references) :
    setting = .ids (a.ids name) ∧ b.ids name = .empty := by
  have hyields := h.yields
  rw [ids, ids, h.before, h.after]
  rcases hids with rfl | rfl
  · cases hyields with
    | reference found => exact ⟨rfl, rfl⟩
  · cases hyields with
    | references found => exact ⟨rfl, rfl⟩

theorem flag_eq (h : a.Resets b name .flag setting) :
    setting = .flag (a.flag name) ∧ b.flag name = none := by
  have hyields := h.yields
  rw [flag, flag, h.before, h.after]
  cases hyields with
  | flag truth => exact ⟨rfl, rfl⟩

theorem switch_eq (h : a.Resets b name .switch setting) :
    setting = .switch (a.switch name) ∧ b.switch name = false := by
  have hyields := h.yields
  rw [switch, switch, h.before, h.after]
  cases hyields with
  | switch truth => exact ⟨rfl, rfl⟩

theorem number_eq (h : a.Resets b name .number setting) :
    setting = .number (a.number name) ∧ b.number name = none := by
  have hyields := h.yields
  rw [number, number, h.before, h.after]
  cases hyields with
  | number n => exact ⟨rfl, rfl⟩

theorem moment_eq (h : a.Resets b name .moment setting) :
    setting = .moment (a.moment name) ∧ b.moment name = none := by
  have hyields := h.yields
  rw [moment, moment, h.before, h.after]
  cases hyields with
  | moment t => exact ⟨rfl, rfl⟩

theorem text_eq (h : a.Resets b name .text setting) :
    setting = .text (a.text name) ∧ b.text name = none := by
  have hyields := h.yields
  rw [text, text, h.before, h.after]
  cases hyields with
  | text content => exact ⟨rfl, rfl⟩

theorem count_eq (h : a.Resets b name .count setting) :
    setting = .count (a.count name) ∧ b.count name = none := by
  have hyields := h.yields
  rw [count, count, h.before, h.after]
  cases hyields with
  | count n => exact ⟨rfl, rfl⟩

theorem document_eq (h : a.Resets b name .document setting) :
    setting = .document (a.document name) ∧ b.document name = none := by
  have hyields := h.yields
  rw [document, document, h.before, h.after]
  cases hyields with
  | document value => exact ⟨rfl, rfl⟩

/-- The option of an identifier set has no clause after it is set back. -/
theorem clause?_eq_none (h : a.Resets b name shape setting)
    (hids : shape = .reference ∨ shape = .references) {source : IdentifierOption}
    (hsource : source.option = name) : source.clause? b = none := by
  rw [IdentifierOption.clause?_eq_none_iff, hsource, (h.ids_eq hids).2]
  rfl

/-- An option for identifiers without a clause was inert before. -/
theorem inert_of_clause? (h : a.Resets b name shape setting)
    (hids : shape = .reference ∨ shape = .references) {source : IdentifierOption}
    (hsource : source.option = name) (hclause : source.clause? a = none) :
    setting = shape.inert := by
  rw [IdentifierOption.clause?_eq_none_iff, hsource, IdentifierSet.isEmpty_iff] at hclause
  rw [(h.ids_eq hids).1, hclause]
  rcases hids with rfl | rfl <;> rfl

end Settings.Resets

/-! ### Lists with items left out -/

section Lists

universe u v

variable {α : Type u} {β : Type v} {f g : α → Option β} {xs : List α}

theorem length_filterMap_cons (x : α) (rest : List α) :
    ((x :: rest).filterMap f).length = (f x).toList.length + (rest.filterMap f).length := by
  cases hf : f x with
  | none => rw [List.filterMap_cons_none hf, Option.toList_none, List.length_nil, Nat.zero_add]
  | some y => rw [List.filterMap_cons_some hf, Option.toList_some, List.length_cons,
      List.length_singleton, Nat.add_comm]

/-- Leaving items out does not make a list longer. -/
theorem length_filterMap_le (h : ∀ x ∈ xs, g x = none ∨ g x = f x) :
    (xs.filterMap g).length ≤ (xs.filterMap f).length := by
  induction xs with
  | nil => simp
  | cons x rest ih =>
    obtain ⟨hx, hrest⟩ := List.forall_mem_cons.mp h
    have hle := ih hrest
    rw [length_filterMap_cons, length_filterMap_cons]
    rcases hx with hnone | heq
    · rw [hnone, Option.toList_none, List.length_nil]
      omega
    · rw [heq]
      omega

/-- A list that keeps its length has lost no item. -/
theorem eq_of_length_filterMap (h : ∀ x ∈ xs, g x = none ∨ g x = f x)
    (hlength : (xs.filterMap f).length = (xs.filterMap g).length) : ∀ x ∈ xs, g x = f x := by
  induction xs with
  | nil => simp
  | cons x rest ih =>
    obtain ⟨hx, hrest⟩ := List.forall_mem_cons.mp h
    have hle := length_filterMap_le hrest
    rw [length_filterMap_cons, length_filterMap_cons] at hlength
    have heq : g x = f x := by
      rcases hx with hnone | heq
      · cases hf : f x with
        | none => exact hnone
        | some y =>
          rw [hnone, hf, Option.toList_none, Option.toList_some, List.length_nil,
            List.length_singleton] at hlength
          omega
      · exact heq
    have hrestLength : (rest.filterMap f).length = (rest.filterMap g).length := by
      rw [heq] at hlength
      omega
    exact List.forall_mem_cons.mpr ⟨heq, ih hrest hrestLength⟩

end Lists

/-! ### Counting conditions -/

@[simp] theorem Condition.conditions_clause (condition : Condition) :
    condition.clause.conditions = 1 := by
  cases condition <;> rfl

/-- The clause of a set of identifiers is one condition. -/
theorem IdentifierOption.conditions_of_clause?_eq_some {source : IdentifierOption}
    {settings : Settings} {clause : Clause} (h : source.clause? settings = some clause) :
    clause.conditions = 1 := by
  simp only [clause?] at h
  split at h
  · simp at h
  · obtain rfl := Option.some.inj h
    rfl

namespace FreeText

/-- A seller's text of which nothing is made: blank, or blank between double quotes. -/
def IsIdleForSeller (text : String) : Prop :=
  canonical text = [] ∨ phrase? (canonical text) = some []

/-- Nothing is made of an idle text. -/
theorem sellerQuery_of_isIdle (box : SellerBox) (fuzziness : String) {text : String}
    (h : IsIdleForSeller text) : sellerQuery box fuzziness text = .empty := by
  rw [sellerQuery]
  rcases h with hempty | hphrase
  · rw [hempty]
  · cases hprepared : canonical text with
    | nil => rfl
    | cons c rest =>
      rw [hprepared] at hphrase
      simp only [hphrase]

/-- A seller's text is idle, a phrase with words in it, or one of several alternatives. -/
theorem sellerQuery_cases (box : SellerBox) (fuzziness text : String) :
    IsIdleForSeller text ∨
      (∃ phrase, phrase ≠ [] ∧ phrase? (canonical text) = some phrase ∧
        sellerQuery box fuzziness text =
          .single .must (.words box.phraseField (String.ofList phrase) .all)) ∨
      canonical text ≠ [] ∧ phrase? (canonical text) = none ∧
        sellerQuery box fuzziness text =
          .ofAlternatives .must (sellerAlternatives box fuzziness (canonical text)) := by
  rw [IsIdleForSeller, sellerQuery]
  cases canonical text with
  | nil => exact .inl (.inl rfl)
  | cons c rest =>
    cases hphrase : phrase? (c :: rest) with
    | none => exact .inr (.inr ⟨List.cons_ne_nil c rest, rfl, by simp only [hphrase]⟩)
    | some phrase =>
      cases phrase with
      | nil => exact .inl (.inr rfl)
      | cons d inner =>
        exact .inr (.inl ⟨d :: inner, List.cons_ne_nil d inner, rfl, by simp only [hphrase]⟩)

/-- A seller's text that makes no condition is idle. -/
theorem isIdleForSeller_of_conditions {box : SellerBox} {fuzziness text : String}
    (h : (sellerQuery box fuzziness text).conditions = 0) : IsIdleForSeller text := by
  rcases sellerQuery_cases box fuzziness text with hidle | ⟨phrase, -, -, hquery⟩ | ⟨-, -, hquery⟩
  · exact hidle
  · simp [hquery, Clause.conditions] at h
  · simp [hquery, sellerAlternatives, Clause.allConditions, Clause.conditions] at h

/-- A buyer's text that makes no condition is blank. -/
theorem canonical_eq_nil_of_conditions {box : BuyerBox} {fuzziness text : String}
    (h : (buyerQuery box fuzziness text).conditions = 0) : canonical text = [] := by
  rw [buyerQuery] at h
  cases hprepared : canonical text with
  | nil => rfl
  | cons c rest => simp [hprepared, Clause.allConditions, Clause.conditions] at h

end FreeText

namespace Facet

/-- A facet makes nothing of a setting that is not inert: an idle text. -/
inductive Ignores : Facet → Setting → Prop
  | seller {box : SellerBox} {text : String} (h : FreeText.IsIdleForSeller text) :
      Ignores (.sellerText box) (.text (some text))
  | buyer {box : BuyerBox} {text : String} (h : FreeText.canonical text = []) :
      Ignores (.buyerText box) (.text (some text))

variable {facet : Facet} {a b : Settings} {name : String} {shape : Shape} {setting : Setting}
  {configuration : Configuration}

/-- An ignored text contributes as much as no text. -/
theorem contribution_eq_of_ignores (h : a.Resets b name shape setting)
    (hname : ⟨name, shape⟩ ∈ facet.declarations) (hignores : facet.Ignores setting) :
    facet.contribution a configuration = facet.contribution b configuration := by
  cases hignores with
  | @seller box text hidle =>
    obtain ⟨rfl, rfl⟩ := Declaration.mk.inj (List.mem_singleton.mp hname)
    obtain ⟨hbefore, hafter⟩ := h.text_eq
    rw [contribution, contribution, ← Setting.text.inj hbefore, hafter]
    exact FreeText.sellerQuery_of_isIdle box configuration.fuzziness hidle
  | @buyer box text hempty =>
    obtain ⟨rfl, rfl⟩ := Declaration.mk.inj (List.mem_singleton.mp hname)
    obtain ⟨hbefore, hafter⟩ := h.text_eq
    rw [contribution, contribution, ← Setting.text.inj hbefore, hafter]
    simp only [FreeText.buyerQuery, hempty]

/-- The bounds of a range are one condition each. -/
theorem allConditions_boundClauses (field : String) (value? : String → Option Json)
    (bounds : List (String × Bound)) :
    Clause.allConditions (boundClauses field value? bounds) =
      (bounds.filterMap fun bound => value? bound.1).length := by
  rw [Clause.allConditions_eq_length]
  · simp only [boundClauses, List.length_filterMap_eq_countP, Option.isSome_map]
  · intro clause hclause
    obtain ⟨bound, -, hvalue⟩ := List.mem_filterMap.mp hclause
    obtain ⟨value, -, rfl⟩ := Option.map_eq_some_iff.mp hvalue
    rfl

/-- A range with as many bounds after one of them is unset did not have it before. -/
theorem bound_eq_none_of_conditions {α : Type} {toJson : α → Json} {field : String}
    {value? value'? : String → Option α} {bounds : List (String × Bound)} {bound : String × Bound}
    (hbound : bound ∈ bounds) (hagree : ∀ other, other ≠ bound.1 → value? other = value'? other)
    (hafter : value'? bound.1 = none)
    (hconditions : BooleanQuery.conditions
        { filter := boundClauses field (fun option => (value? option).map toJson) bounds } =
      BooleanQuery.conditions
        { filter := boundClauses field (fun option => (value'? option).map toJson) bounds }) :
    value? bound.1 = none := by
  simp only [BooleanQuery.conditions_eq, allConditions_boundClauses, Clause.allConditions,
    Nat.add_zero] at hconditions
  have hsub : ∀ other ∈ bounds, (value'? other.1).map toJson = none ∨
      (value'? other.1).map toJson = (value? other.1).map toJson := by
    intro other _
    by_cases hname : other.1 = bound.1
    · rw [hname, hafter]
      exact Or.inl rfl
    · rw [hagree other.1 hname]
      exact Or.inr rfl
  have hkept := eq_of_length_filterMap hsub hconditions bound hbound
  rw [hafter, Option.map_none] at hkept
  exact Option.map_eq_none_iff.mp hkept.symm

/-- Sets of identifiers are one condition each. -/
theorem allConditions_clauses (sources : List IdentifierOption) (settings : Settings) :
    Clause.allConditions (sources.filterMap (·.clause? settings)) =
      (sources.filterMap (·.clause? settings)).length := by
  apply Clause.allConditions_eq_length
  intro clause hclause
  obtain ⟨source, -, hsource⟩ := List.mem_filterMap.mp hclause
  exact IdentifierOption.conditions_of_clause?_eq_some hsource

/-- Excluded identifiers are one condition each. -/
theorem allConditions_exclusions (field : String) (ids : List Identifier) :
    Clause.allConditions (ids.map fun id => .term field id.toJson) = ids.length := by
  rw [Clause.allConditions_eq_length, List.length_map]
  intro clause hclause
  obtain ⟨id, -, rfl⟩ := List.mem_map.mp hclause
  rfl

/-- A contribution that keeps its conditions lost nothing: the setting was inert or ignored. -/
theorem inert_or_ignores_of_conditions (h : a.Resets b name shape setting)
    (hname : ⟨name, shape⟩ ∈ facet.declarations)
    (hidentity : ∀ source shape, facet = .identity source shape →
      shape = .reference ∨ shape = .references)
    (hconditions : (facet.contribution a configuration).conditions =
      (facet.contribution b configuration).conditions) :
    setting = shape.inert ∨ facet.Ignores setting := by
  cases facet with
  | identity source shape' =>
    obtain ⟨rfl, rfl⟩ := Declaration.mk.inj (List.mem_singleton.mp hname)
    have hids := hidentity source shape rfl
    refine Or.inl (h.inert_of_clause? hids rfl ?_)
    cases hclause : source.clause? a with
    | none => rfl
    | some clause =>
      have hone := IdentifierOption.conditions_of_clause?_eq_some hclause
      simp [contribution, hclause, h.clause?_eq_none hids rfl, hone] at hconditions
  | anyOf sources =>
    obtain ⟨source, hsource, heq⟩ := List.mem_map.mp hname
    obtain ⟨rfl, rfl⟩ := Declaration.mk.inj heq
    have hids : Shape.references = .reference ∨ Shape.references = .references := Or.inr rfl
    -- Every other alternative keeps its clause, so the list can only lose this one.
    have hsub : ∀ other ∈ sources, other.clause? b = none ∨ other.clause? b = other.clause? a := by
      intro other _
      by_cases hoption : other.option = source.option
      · exact Or.inl (h.clause?_eq_none hids hoption)
      · exact Or.inr (IdentifierOption.clause?_congr (h.agree other.option hoption)).symm
    simp only [contribution, BooleanQuery.conditions_ofAlternatives, allConditions_clauses]
      at hconditions
    have hkept := eq_of_length_filterMap hsub hconditions source hsource
    exact Or.inl (h.inert_of_clause? hids rfl (hkept.symm.trans (h.clause?_eq_none hids rfl)))
  | exclusion source =>
    obtain ⟨rfl, rfl⟩ := Declaration.mk.inj (List.mem_singleton.mp hname)
    obtain ⟨hbefore, hafter⟩ := h.ids_eq (Or.inr rfl)
    simp only [contribution, BooleanQuery.conditions_eq, allConditions_exclusions, hafter]
      at hconditions
    have hmembers : (a.ids source.option).members = [] := by
      simpa [Clause.allConditions, IdentifierSet.empty] using hconditions
    left
    rw [hbefore, (IdentifierSet.isEmpty_iff _).mp (List.isEmpty_iff.mpr hmembers), Shape.inert]
  | flag option condition whenTrue =>
    obtain ⟨rfl, rfl⟩ := Declaration.mk.inj (List.mem_singleton.mp hname)
    obtain ⟨hbefore, hafter⟩ := h.flag_eq
    left
    cases hflag : a.flag name with
    | none => rw [hbefore, hflag, Shape.inert]
    | some truth => cases truth <;> simp [contribution, hflag, hafter] at hconditions
  | switch option condition occurrence =>
    obtain ⟨rfl, rfl⟩ := Declaration.mk.inj (List.mem_singleton.mp hname)
    obtain ⟨hbefore, hafter⟩ := h.switch_eq
    left
    cases hswitch : a.switch name with
    | false => rw [hbefore, hswitch, Shape.inert]
    | true => simp [contribution, hswitch, hafter] at hconditions
  | numericRange field greaterThan lessThan =>
    obtain ⟨bound, hbound, heq⟩ := List.mem_map.mp hname
    obtain ⟨rfl, rfl⟩ := Declaration.mk.inj heq
    obtain ⟨hbefore, hafter⟩ := h.number_eq
    have hagree : ∀ other, other ≠ bound.1 → a.number other = b.number other :=
      fun other hother => Settings.number_congr (h.agree other hother)
    left
    rw [hbefore, bound_eq_none_of_conditions hbound hagree hafter hconditions, Shape.inert]
  | dateRange field after onOrAfter before onOrBefore =>
    obtain ⟨bound, hbound, heq⟩ := List.mem_map.mp hname
    obtain ⟨rfl, rfl⟩ := Declaration.mk.inj heq
    obtain ⟨hbefore, hafter⟩ := h.moment_eq
    have hagree : ∀ other, other ≠ bound.1 → a.moment other = b.moment other :=
      fun other hother => Settings.moment_congr (h.agree other hother)
    left
    rw [hbefore, bound_eq_none_of_conditions hbound hagree hafter hconditions, Shape.inert]
  | sellerText box =>
    obtain ⟨rfl, rfl⟩ := Declaration.mk.inj (List.mem_singleton.mp hname)
    obtain ⟨hbefore, hafter⟩ := h.text_eq
    rw [contribution, contribution, hafter] at hconditions
    rw [hbefore]
    cases htext : a.text box.option with
    | none => exact Or.inl rfl
    | some text =>
      rw [htext] at hconditions
      exact Or.inr (.seller (FreeText.isIdleForSeller_of_conditions hconditions))
  | buyerText box =>
    obtain ⟨rfl, rfl⟩ := Declaration.mk.inj (List.mem_singleton.mp hname)
    obtain ⟨hbefore, hafter⟩ := h.text_eq
    rw [contribution, contribution, hafter] at hconditions
    rw [hbefore]
    cases htext : a.text box.option with
    | none => exact Or.inl rfl
    | some text =>
      rw [htext] at hconditions
      exact Or.inr (.buyer (FreeText.canonical_eq_nil_of_conditions hconditions))

end Facet

end FacetedSearch
