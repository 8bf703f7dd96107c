import FacetedSearch.Proofs.Schema.Reading

/-!
# What settings say of supplied values

Each kind of setting is a function of the supplied value alone: the identifiers that
it denotes, the truth value it says, its number, its moment in canonical form, its text, its
count or its JSON. An option that was not supplied says nothing.
-/

namespace FacetedSearch

namespace Supplied

/--
A value denotes an identifier, alone or as an item of a list; a blank text denotes none.
-/
inductive Denotes : Supplied → Identifier → Prop
  | alone {value : Supplied} {id : Identifier} (h : value.identifier? = some id)
      (hblank : id.isBlank = false) : Denotes value id
  | item {items : List Supplied} {item : Supplied} {id : Identifier} (hitem : item ∈ items)
      (h : item.identifier? = some id) (hblank : id.isBlank = false) : Denotes (.list items) id

/-- A value says a truth value, itself or by its name in small and capital letters. -/
inductive Says : Supplied → Bool → Prop
  | bool (truth : Bool) : Says (.bool truth) truth
  | yes {text : String} (h : text.toLower = "true") : Says (.text text) true
  | no {text : String} (h : text.toLower = "false") : Says (.text text) false

/-- The truth value that is read is the one that is said. -/
theorem truth?_eq_some_iff {value : Supplied} {truth : Bool} :
    value.truth? = some truth ↔ value.Says truth := by
  constructor
  · intro h
    cases value with
    | bool said =>
      obtain rfl := Option.some.inj h
      exact .bool said
    | text text =>
      simp only [truth?] at h
      split at h
      · next htrue =>
        obtain rfl := Option.some.inj h
        exact .yes htrue
      · split at h
        · next hfalse =>
          obtain rfl := Option.some.inj h
          exact .no hfalse
        · simp at h
    | _ => simp [truth?] at h
  · intro h
    cases h with
    | bool => rfl
    | yes htrue => simp [truth?, htrue]
    | no hfalse => simp [truth?, hfalse]

/-- Only a text has a text. -/
theorem text?_eq_some_iff {value : Supplied} {content : String} :
    value.text? = some content ↔ value = .text content := by
  cases value <;> simp [text?]

/-- Blank identifiers are left out of a set. -/
theorem mem_nonBlank {ids : List Identifier} {id : Identifier} :
    id ∈ (nonBlank ids).members ↔ id ∈ ids ∧ id.isBlank = false := by
  rw [nonBlank, IdentifierSet.mem_members_ofList, List.mem_filter, Bool.not_eq_true']

/-- A single identifier denotes itself, unless it is blank. -/
theorem mem_reference?_iff {value : Supplied} {ids : IdentifierSet}
    (h : value.reference? = some ids) (id : Identifier) :
    id ∈ ids.members ↔ value.Denotes id := by
  obtain ⟨found, hfound, rfl⟩ := Option.map_eq_some_iff.mp h
  rw [mem_nonBlank, List.mem_singleton]
  constructor
  · rintro ⟨rfl, hblank⟩
    exact .alone hfound hblank
  · intro hdenotes
    cases hdenotes with
    | alone hid hblank => exact ⟨Option.some.inj (hid.symm.trans hfound), hblank⟩
    | item => simp [identifier?] at hfound

/-- A list denotes what its items denote. -/
theorem mem_references?_iff {value : Supplied} {ids : IdentifierSet}
    (h : value.references? = some ids) (id : Identifier) :
    id ∈ ids.members ↔ value.Denotes id := by
  by_cases hlist : ∃ items, value = .list items
  · obtain ⟨items, rfl⟩ := hlist
    simp only [references?] at h
    split at h
    · obtain rfl := Option.some.inj h
      rw [mem_nonBlank, List.mem_filterMap]
      constructor
      · rintro ⟨⟨item, hitem, hid⟩, hblank⟩
        exact .item hitem hid hblank
      · intro hdenotes
        cases hdenotes with
        | alone hid => simp [identifier?] at hid
        | item hitem hid hblank => exact ⟨⟨_, hitem, hid⟩, hblank⟩
    · simp at h
  · have hsingle : ∀ items, value ≠ .list items := fun items heq => hlist ⟨items, heq⟩
    rw [references?_eq_reference? hsingle] at h
    exact mem_reference?_iff h id

/-- Null denotes nothing. -/
theorem not_denotes_null (id : Identifier) : ¬ Denotes .null id := by
  intro h
  cases h with
  | alone hid => simp [identifier?] at hid

end Supplied

namespace Schema

variable {schema : Schema} {options : OptionSet} {settings : Settings} {name : String}

/-- The identifiers of an option are those that its value denotes. -/
theorem mem_ids_iff (h : schema.settings options = .ok settings) {shape : Shape}
    (hshape : schema.shapes.get? name = some shape)
    (hids : shape = .reference ∨ shape = .references) (id : Identifier) :
    id ∈ (settings.ids name).members ↔ (options.value name).Denotes id := by
  rcases settings_cases h hshape with ⟨hnull, hget⟩ | ⟨setting, -, hsetting, hget⟩
  · have hinert : shape.inert = .ids .empty := by
      rcases hids with rfl | rfl <;> rfl
    rw [Settings.ids, hget, hinert, hnull]
    exact iff_of_false List.not_mem_nil (Supplied.not_denotes_null id)
  · rcases hids with rfl | rfl
    · obtain ⟨ids, hread, rfl⟩ := Option.map_eq_some_iff.mp hsetting
      rw [Settings.ids, hget]
      exact Supplied.mem_reference?_iff hread id
    · obtain ⟨ids, hread, rfl⟩ := Option.map_eq_some_iff.mp hsetting
      rw [Settings.ids, hget]
      exact Supplied.mem_references?_iff hread id

/-- The setting of an option for identifiers is the set of them. -/
theorem get?_eq_ids (h : schema.settings options = .ok settings) {shape : Shape}
    (hshape : schema.shapes.get? name = some shape)
    (hids : shape = .reference ∨ shape = .references) :
    settings.get? name = some (.ids (settings.ids name)) := by
  rcases settings_cases h hshape with ⟨-, hget⟩ | ⟨setting, -, hsetting, hget⟩
  · rcases hids with rfl | rfl <;> simp only [Settings.ids, hget, Shape.inert]
  · rcases hids with rfl | rfl
    · obtain ⟨ids, -, rfl⟩ := Option.map_eq_some_iff.mp hsetting
      simp only [Settings.ids, hget]
    · obtain ⟨ids, -, rfl⟩ := Option.map_eq_some_iff.mp hsetting
      simp only [Settings.ids, hget]

/-- A flag is set to the truth value that its value says. -/
theorem flag_eq (h : schema.settings options = .ok settings)
    (hshape : schema.shapes.get? name = some .flag) :
    settings.flag name = (options.value name).truth? := by
  rcases settings_cases h hshape with ⟨hnull, hget⟩ | ⟨setting, -, hsetting, hget⟩
  · rw [Settings.flag, hget, hnull]
    rfl
  · obtain ⟨truth, hread, rfl⟩ := Option.map_eq_some_iff.mp hsetting
    rw [Settings.flag, hget, hread]

/-- A switch is on if its value says so. -/
theorem switch_iff (h : schema.settings options = .ok settings)
    (hshape : schema.shapes.get? name = some .switch) :
    settings.switch name = true ↔ (options.value name).truth? = some true := by
  rcases settings_cases h hshape with ⟨hnull, hget⟩ | ⟨setting, -, hsetting, hget⟩
  · rw [Settings.switch, hget, hnull]
    simp [Shape.inert, Supplied.truth?]
  · obtain ⟨truth, hread, rfl⟩ := Option.map_eq_some_iff.mp hsetting
    rw [Settings.switch, hget, hread, Option.some.injEq]

/-- A number is the one supplied. -/
theorem number_eq (h : schema.settings options = .ok settings)
    (hshape : schema.shapes.get? name = some .number) :
    settings.number name = (options.value name).number? := by
  rcases settings_cases h hshape with ⟨hnull, hget⟩ | ⟨setting, -, hsetting, hget⟩
  · rw [Settings.number, hget, hnull]
    rfl
  · obtain ⟨n, hread, rfl⟩ := Option.map_eq_some_iff.mp hsetting
    rw [Settings.number, hget, hread]

/-- A moment is the one supplied, in canonical form. -/
theorem moment_eq (h : schema.settings options = .ok settings)
    (hshape : schema.shapes.get? name = some .moment) :
    settings.moment name = (options.value name).instant?.map Instant.canonical := by
  rcases settings_cases h hshape with ⟨hnull, hget⟩ | ⟨setting, -, hsetting, hget⟩
  · rw [Settings.moment, hget, hnull]
    rfl
  · obtain ⟨t, hread, rfl⟩ := Option.map_eq_some_iff.mp hsetting
    rw [Settings.moment, hget, hread]
    rfl

/-- A text is the one supplied. -/
theorem text_eq (h : schema.settings options = .ok settings)
    (hshape : schema.shapes.get? name = some .text) :
    settings.text name = (options.value name).text? := by
  rcases settings_cases h hshape with ⟨hnull, hget⟩ | ⟨setting, -, hsetting, hget⟩
  · rw [Settings.text, hget, hnull]
    rfl
  · obtain ⟨content, hread, rfl⟩ := Option.map_eq_some_iff.mp hsetting
    rw [Settings.text, hget, hread]

/-- A count is the one supplied. -/
theorem count_eq (h : schema.settings options = .ok settings)
    (hshape : schema.shapes.get? name = some .count) :
    settings.count name = (options.value name).count? := by
  rcases settings_cases h hshape with ⟨hnull, hget⟩ | ⟨setting, -, hsetting, hget⟩
  · rw [Settings.count, hget, hnull]
    rfl
  · obtain ⟨n, hread, rfl⟩ := Option.map_eq_some_iff.mp hsetting
    rw [Settings.count, hget, hread]

/-- A document is the JSON of the value, unless that is null. -/
theorem document_eq (h : schema.settings options = .ok settings)
    (hshape : schema.shapes.get? name = some .document) :
    settings.document name =
      if (options.value name).isNull then none else some (options.value name).toJson := by
  rcases settings_cases h hshape with ⟨hnull, hget⟩ | ⟨setting, hvalue, hsetting, hget⟩
  · rw [Settings.document, hget, hnull]
    rfl
  · obtain rfl := Option.some.inj hsetting
    rw [Settings.document, hget, if_neg (mt (Supplied.isNull_iff _).mp hvalue)]

end Schema

end FacetedSearch
