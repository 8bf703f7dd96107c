import FacetedSearch.Proofs.Schema.Settings

/-!
# Values that set nothing

A value sets nothing if reading it gives the setting of an option that was not supplied. Null
sets nothing anywhere, and so do blank identifiers, lists of these and of nulls, and the
switch that is off; a flag, a number, a moment, a text, a count or a document always sets
something.
-/

namespace FacetedSearch

/-- An identifier, typed in or taken from a record, whose text is empty or blank. -/
inductive Supplied.IsBlankIdentifier : Supplied → Prop
  | text {content : String} (h : Text.allBlank content = true) :
      IsBlankIdentifier (.text content)
  | reference {value : Reference} {content : String} (hid : value.identifier = .text content)
      (h : Text.allBlank content = true) : IsBlankIdentifier (.reference value)

/-- The values that set nothing for a shape. -/
inductive Shape.SetsNothing : Shape → Supplied → Prop
  | null (shape : Shape) : SetsNothing shape .null
  | reference {value : Supplied} (h : value.IsBlankIdentifier) : SetsNothing .reference value
  | alone {value : Supplied} (h : value.IsBlankIdentifier) : SetsNothing .references value
  /-- The empty list is among these. -/
  | list {items : List Supplied} (h : ∀ item ∈ items, item = .null ∨ item.IsBlankIdentifier) :
      SetsNothing .references (.list items)
  | switch {value : Supplied} (h : value.Says false) : SetsNothing .switch value

/-- The settings that a shape may have. -/
inductive Shape.Yields : Shape → Setting → Prop
  | reference (ids : IdentifierSet) : Yields .reference (.ids ids)
  | references (ids : IdentifierSet) : Yields .references (.ids ids)
  | flag (truth : Option Bool) : Yields .flag (.flag truth)
  | switch (truth : Bool) : Yields .switch (.switch truth)
  | number (n : Option Number) : Yields .number (.number n)
  | moment (t : Option String) : Yields .moment (.moment t)
  | text (content : Option String) : Yields .text (.text content)
  | count (n : Option UInt64) : Yields .count (.count n)
  | document (value : Option Json) : Yields .document (.document value)

/-- Only the empty set has no member. -/
theorem IdentifierSet.isEmpty_iff (ids : IdentifierSet) : ids.isEmpty = true ↔ ids = .empty := by
  constructor
  · intro h
    have hmembers : ids.members = [] := List.isEmpty_iff.mp h
    apply ext_mem
    intro id
    rw [hmembers]
    rfl
  · rintro rfl
    rfl

namespace Supplied

/-- A blank identifier is one with a blank text. -/
theorem isBlankIdentifier_iff (value : Supplied) :
    value.IsBlankIdentifier ↔ ∃ id, value.identifier? = some id ∧ id.isBlank = true := by
  constructor
  · intro h
    cases h with
    | text hblank => exact ⟨_, rfl, hblank⟩
    | @reference reference content hid hblank => exact ⟨.text content, congrArg some hid, hblank⟩
  · rintro ⟨id, hid, hblank⟩
    cases id with
    | number n => simp [Identifier.isBlank] at hblank
    | text content =>
      cases value with
      | text found =>
        obtain rfl : found = content := by simpa [identifier?] using hid
        exact .text hblank
      | reference reference => exact .reference (Option.some.inj hid) hblank
      | _ => simp [identifier?] at hid

/-- Nothing is left of a list of identifiers exactly if all of them are blank. -/
theorem nonBlank_eq_empty_iff (ids : List Identifier) :
    nonBlank ids = .empty ↔ ∀ id ∈ ids, id.isBlank = true := by
  rw [← IdentifierSet.isEmpty_iff, IdentifierSet.isEmpty, List.isEmpty_iff,
    List.eq_nil_iff_forall_not_mem]
  apply forall_congr'
  intro id
  rw [mem_nonBlank, not_and, Bool.not_eq_false]

/-- A single value gives the empty set exactly if it is a blank identifier. -/
theorem reference?_eq_empty_iff (value : Supplied) :
    value.reference? = some .empty ↔ value.IsBlankIdentifier := by
  rw [reference?, Option.map_eq_some_iff, isBlankIdentifier_iff]
  simp only [nonBlank_eq_empty_iff, List.mem_singleton, forall_eq]

/-- A list gives the empty set exactly if its items are nulls and blank identifiers. -/
theorem references?_list_eq_empty_iff (items : List Supplied) :
    (list items).references? = some .empty ↔
      ∀ item ∈ items, item = .null ∨ item.IsBlankIdentifier := by
  simp only [references?, Option.ite_none_right_eq_some, Option.some.injEq, nonBlank_eq_empty_iff,
    List.all_eq_true, List.mem_filterMap, isBlankIdentifier_iff]
  constructor
  · rintro ⟨hitems, hblank⟩ item hitem
    have hone := hitems item hitem
    rw [isReferenceItem, Bool.or_eq_true, isNull_iff, Option.isSome_iff_exists] at hone
    rcases hone with hnull | ⟨id, hid⟩
    · exact Or.inl hnull
    · exact Or.inr ⟨id, hid, hblank id ⟨item, hitem, hid⟩⟩
  · intro h
    constructor
    · intro item hitem
      rw [isReferenceItem, Bool.or_eq_true, isNull_iff, Option.isSome_iff_exists]
      rcases h item hitem with hnull | ⟨id, hid, -⟩
      · exact Or.inl hnull
      · exact Or.inr ⟨id, hid⟩
    · rintro id ⟨item, hitem, hid⟩
      rcases h item hitem with rfl | ⟨other, hother, hblank⟩
      · simp [identifier?] at hid
      · obtain rfl := Option.some.inj (hid.symm.trans hother)
        exact hblank

/-- A value gives the empty set of identifiers exactly if it sets nothing or is null. -/
theorem references?_eq_empty_iff {value : Supplied} (hvalue : value ≠ .null) :
    value.references? = some .empty ↔ Shape.SetsNothing .references value := by
  by_cases hlist : ∃ items, value = .list items
  · obtain ⟨items, rfl⟩ := hlist
    rw [references?_list_eq_empty_iff]
    constructor
    · exact .list
    · intro h
      cases h with
      | alone hblank => cases hblank
      | list hitems => exact hitems
  · have hsingle : ∀ items, value ≠ .list items := fun items heq => hlist ⟨items, heq⟩
    rw [references?_eq_reference? hsingle, reference?_eq_empty_iff]
    constructor
    · exact .alone
    · intro h
      cases h with
      | null => exact absurd rfl hvalue
      | alone hblank => exact hblank
      | list => exact absurd rfl (hsingle _)

end Supplied

namespace Shape

/-- Every setting that is read is one that the shape may have. -/
theorem yields_of_read {shape : Shape} {value : Supplied} {setting : Setting}
    (h : shape.read value = .ok setting) : shape.Yields setting := by
  by_cases hvalue : value = .null
  · rw [hvalue, read_null] at h
    obtain rfl := Except.ok.inj h
    cases shape <;> constructor
  · rw [read_eq_ok_iff hvalue] at h
    cases shape with
    | document =>
      obtain rfl := Option.some.inj h
      exact .document _
    | _ =>
      obtain ⟨found, -, rfl⟩ := Option.map_eq_some_iff.mp h
      constructor

/-- Exactly the values that set nothing are read as the setting of an option not supplied. -/
theorem read_eq_inert_iff {shape : Shape} {value : Supplied} :
    shape.read value = .ok shape.inert ↔ shape.SetsNothing value := by
  by_cases hvalue : value = .null
  · rw [hvalue]
    exact iff_of_true rfl (.null shape)
  · rw [read_eq_ok_iff hvalue]
    cases shape with
    | reference =>
      have hread : setting? .reference value = some (inert .reference) ↔
          value.reference? = some .empty := by
        simp [setting?, inert]
      rw [hread, Supplied.reference?_eq_empty_iff]
      constructor
      · exact .reference
      · intro h
        cases h with
        | null => exact absurd rfl hvalue
        | reference hblank => exact hblank
    | references =>
      have hread : setting? .references value = some (inert .references) ↔
          value.references? = some .empty := by
        simp [setting?, inert]
      rw [hread, Supplied.references?_eq_empty_iff hvalue]
    | switch =>
      have hread : setting? .switch value = some (inert .switch) ↔ value.Says false := by
        simp [setting?, inert, ← Supplied.truth?_eq_some_iff]
      rw [hread]
      constructor
      · exact .switch
      · intro h
        cases h with
        | null => exact absurd rfl hvalue
        | switch hsays => exact hsays
    | _ =>
      apply iff_of_false
      · simp [setting?, inert]
      · intro h
        cases h
        exact hvalue rfl

end Shape

end FacetedSearch
