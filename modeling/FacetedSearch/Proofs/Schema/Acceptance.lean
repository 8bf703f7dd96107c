import FacetedSearch.Proofs.Schema.Settings
import FacetedSearch.Proofs.Text.ByteOrder

/-!
# Which option sets are accepted

The values in the domain of each shape are listed one rule a kind of value. A
schema accepts an option set exactly if it has every supplied option with the value in the
domain of its shape, and otherwise blames the offending option whose name has the
least UTF-8 bytes, for a reason that depends on that option alone.
-/

namespace FacetedSearch

/-- The values that denote an identifier by themselves. -/
inductive Supplied.IsIdentifier : Supplied → Prop
  | int (value : Int64) : IsIdentifier (.int value)
  | text (value : String) : IsIdentifier (.text value)
  | reference (value : Reference) : IsIdentifier (.reference value)

/-- The values in the domain of a shape. -/
inductive Shape.Takes : Shape → Supplied → Prop
  /-- Explicitly no value is always possible. -/
  | null (shape : Shape) : Takes shape .null
  | reference {value : Supplied} (h : value.IsIdentifier) : Takes .reference value
  | alone {value : Supplied} (h : value.IsIdentifier) : Takes .references value
  /-- Nulls may stand in a list, other lists may not. -/
  | list {items : List Supplied} (h : ∀ item ∈ items, item = .null ∨ item.IsIdentifier) :
      Takes .references (.list items)
  | flag {value : Supplied} {truth : Bool} (h : value.Says truth) : Takes .flag value
  | switch {value : Supplied} {truth : Bool} (h : value.Says truth) : Takes .switch value
  | int (value : Int64) : Takes .number (.int value)
  | float {value : Binary64} (h : value.IsFinite) : Takes .number (.float value)
  | instant (value : Instant) : Takes .moment (.instant value)
  | date (value : Date) : Takes .moment (.date value)
  | momentText {text : String} (h : (Time.readTimestamp text).isSome) : Takes .moment (.text text)
  | text (text : String) : Takes .text (.text text)
  | count {value : Int64} (h : 0 ≤ value.toInt) : Takes .count (.int value)
  | document (value : Supplied) : Takes .document value

/-- A schema has an option, with the value in the domain of its shape. -/
def Schema.Takes (schema : Schema) (name : String) (value : Supplied) : Prop :=
  ∃ shape, schema.shapes.get? name = some shape ∧ shape.Takes value

/-- The error of one option that a schema does not take. -/
inductive Schema.Blames (schema : Schema) (name : String) (value : Supplied) : SearchError → Prop
  /-- A name that the schema does not have is blamed whatever its value. -/
  | unknown (h : schema.shapes.get? name = none) :
      Blames schema name value (.unknownOption schema.collection name)
  /-- A text that is no date is reported as it is. -/
  | date {text : String} (hshape : schema.shapes.get? name = some .moment)
      (hvalue : value = .text text) (htakes : ¬ Shape.Takes .moment value) :
      Blames schema name value (.refused name (.unreadableDate text))
  /-- Any other value is reported by the shape that was expected and its own kind. -/
  | mismatch {shape : Shape} (hshape : schema.shapes.get? name = some shape)
      (hother : ¬ (shape = .moment ∧ value.kind = .text)) (htakes : ¬ shape.Takes value) :
      Blames schema name value (.refused name (.mismatch shape value.kind))

namespace Supplied

/-- Exactly the values that denote an identifier have one. -/
theorem isSome_identifier?_iff (value : Supplied) :
    value.identifier?.isSome = true ↔ value.IsIdentifier := by
  constructor
  · intro h
    cases value with
    | int value => exact .int value
    | text value => exact .text value
    | reference value => exact .reference value
    | _ => simp [identifier?] at h
  · intro h
    cases h <;> rfl

theorem isSome_reference?_iff (value : Supplied) :
    value.reference?.isSome = true ↔ value.IsIdentifier := by
  rw [reference?, Option.isSome_map, isSome_identifier?_iff]

theorem isReferenceItem_iff (item : Supplied) :
    item.isReferenceItem = true ↔ item = .null ∨ item.IsIdentifier := by
  rw [isReferenceItem, Bool.or_eq_true, isNull_iff, isSome_identifier?_iff]

/-- A list is read if each of its items is null or denotes an identifier. -/
theorem isSome_references?_list_iff (items : List Supplied) :
    (list items).references?.isSome = true ↔
      ∀ item ∈ items, item = .null ∨ item.IsIdentifier := by
  simp only [references?]
  split
  · next hall =>
    simp only [List.all_eq_true, isReferenceItem_iff] at hall
    exact iff_of_true rfl hall
  · next hall =>
    simp only [List.all_eq_true, isReferenceItem_iff] at hall
    exact iff_of_false Bool.false_ne_true hall

/-- A truth value is read exactly if one is said. -/
theorem isSome_truth?_iff (value : Supplied) :
    value.truth?.isSome = true ↔ ∃ truth, value.Says truth := by
  simp only [Option.isSome_iff_exists, truth?_eq_some_iff]

end Supplied

namespace Shape

/-- A shape has a setting for exactly the values in its domain, null apart. -/
theorem isSome_setting?_iff {shape : Shape} {value : Supplied} (hvalue : value ≠ .null) :
    (shape.setting? value).isSome = true ↔ shape.Takes value := by
  cases shape with
  | reference =>
    rw [setting?, Option.isSome_map, Supplied.isSome_reference?_iff]
    constructor
    · exact .reference
    · intro h
      cases h with
      | null => exact absurd rfl hvalue
      | reference hid => exact hid
  | references =>
    rw [setting?, Option.isSome_map]
    by_cases hlist : ∃ items, value = .list items
    · obtain ⟨items, rfl⟩ := hlist
      rw [Supplied.isSome_references?_list_iff]
      constructor
      · exact .list
      · intro h
        cases h with
        | alone hid => cases hid
        | list hitems => exact hitems
    · have hsingle : ∀ items, value ≠ .list items := fun items heq => hlist ⟨items, heq⟩
      rw [Supplied.references?_eq_reference? hsingle, Supplied.isSome_reference?_iff]
      constructor
      · exact .alone
      · intro h
        cases h with
        | null => exact absurd rfl hvalue
        | alone hid => exact hid
        | list => exact absurd rfl (hsingle _)
  | flag =>
    rw [setting?, Option.isSome_map, Supplied.isSome_truth?_iff]
    constructor
    · rintro ⟨truth, hsays⟩
      exact .flag hsays
    · intro h
      cases h with
      | null => exact absurd rfl hvalue
      | flag hsays => exact ⟨_, hsays⟩
  | switch =>
    rw [setting?, Option.isSome_map, Supplied.isSome_truth?_iff]
    constructor
    · rintro ⟨truth, hsays⟩
      exact .switch hsays
    · intro h
      cases h with
      | null => exact absurd rfl hvalue
      | switch hsays => exact ⟨_, hsays⟩
  | number =>
    rw [setting?, Option.isSome_map]
    constructor
    · intro h
      cases value with
      | int value => exact .int value
      | float value =>
        have hfinite : value.IsFinite := by
          apply Decidable.byContradiction
          intro hnot
          simp [Supplied.number?, Number.ofBinary64?, hnot] at h
        exact .float hfinite
      | _ => simp [Supplied.number?] at h
    · intro h
      cases h with
      | null => exact absurd rfl hvalue
      | int value => rfl
      | float hfinite => simp [Supplied.number?, Number.ofBinary64?, hfinite]
  | moment =>
    rw [setting?, Option.isSome_map]
    constructor
    · intro h
      cases value with
      | instant value => exact .instant value
      | date value => exact .date value
      | text text => exact .momentText h
      | _ => simp [Supplied.instant?] at h
    · intro h
      cases h with
      | null => exact absurd rfl hvalue
      | instant value => rfl
      | date value => rfl
      | momentText hread => exact hread
  | text =>
    rw [setting?, Option.isSome_map]
    constructor
    · intro h
      cases value with
      | text text => exact .text text
      | _ => simp [Supplied.text?] at h
    · intro h
      cases h with
      | null => exact absurd rfl hvalue
      | text text => rfl
  | count =>
    rw [setting?, Option.isSome_map]
    constructor
    · intro h
      cases value with
      | int value =>
        have hcount : 0 ≤ value.toInt := by
          apply Decidable.byContradiction
          intro hnot
          simp [Supplied.count?, hnot] at h
        exact .count hcount
      | _ => simp [Supplied.count?] at h
    · intro h
      cases h with
      | null => exact absurd rfl hvalue
      | count hcount => simp [Supplied.count?, hcount]
  | document => exact iff_of_true rfl (.document value)

/-- Reading by a shape succeeds exactly on its domain. -/
theorem exists_read_eq_ok_iff {shape : Shape} {value : Supplied} :
    (∃ setting, shape.read value = .ok setting) ↔ shape.Takes value := by
  by_cases hvalue : value = .null
  · rw [hvalue]
    exact iff_of_true ⟨shape.inert, rfl⟩ (.null shape)
  · simp only [read_eq_ok_iff hvalue, ← Option.isSome_iff_exists, isSome_setting?_iff hvalue]

/-- Outside its domain a shape refuses a value, and nowhere else. -/
theorem read_eq_error_iff_not_takes {shape : Shape} {value : Supplied} {refusal : Refusal} :
    shape.read value = .error refusal ↔ ¬ shape.Takes value ∧ refusal = shape.refusal value := by
  by_cases hvalue : value = .null
  · have htakes : shape.Takes .null := .null shape
    simp [hvalue, htakes]
  · rw [read_eq_error_iff, ← Option.not_isSome_iff_eq_none, isSome_setting?_iff hvalue]
    exact and_iff_right hvalue

end Shape

namespace Schema

variable {schema : Schema} {name : String} {value : Supplied}

/-- One option is read exactly if the schema takes it. -/
theorem exists_read_eq_ok_iff :
    (∃ setting, schema.read name value = .ok setting) ↔ schema.Takes name value := by
  simp only [read_eq_ok_iff, Takes]
  constructor
  · rintro ⟨setting, shape, hshape, hread⟩
    exact ⟨shape, hshape, Shape.exists_read_eq_ok_iff.mp ⟨setting, hread⟩⟩
  · rintro ⟨shape, hshape, htakes⟩
    obtain ⟨setting, hread⟩ := Shape.exists_read_eq_ok_iff.mpr htakes
    exact ⟨setting, shape, hshape, hread⟩

/-- One option is refused for the reason for which the schema blames it. -/
theorem read_eq_error_iff_blames {error : SearchError} :
    schema.read name value = .error error ↔ schema.Blames name value error := by
  rw [read_eq_error_iff]
  constructor
  · rintro (⟨hnone, rfl⟩ | ⟨shape, refusal, hshape, hread, rfl⟩)
    · exact .unknown hnone
    · obtain ⟨htakes, rfl⟩ := Shape.read_eq_error_iff_not_takes.mp hread
      by_cases hdate : ∃ text, shape = .moment ∧ value = .text text
      · obtain ⟨text, rfl, rfl⟩ := hdate
        exact .date hshape rfl htakes
      · have hother : ¬ (shape = .moment ∧ value.kind = .text) := by
          rintro ⟨rfl, hkind⟩
          cases value with
          | text text => exact hdate ⟨text, rfl, rfl⟩
          | reference value => cases value <;> simp [Supplied.kind] at hkind
          | _ => simp [Supplied.kind] at hkind
        have hrefusal : shape.refusal value = .mismatch shape value.kind := by
          unfold Shape.refusal
          split
          · exact absurd ⟨rfl, rfl⟩ hother
          · rfl
        rw [hrefusal]
        exact .mismatch hshape hother htakes
  · intro h
    cases h with
    | unknown hnone => exact Or.inl ⟨hnone, rfl⟩
    | date hshape hvalue htakes =>
      refine Or.inr ⟨.moment, _, hshape, ?_, rfl⟩
      subst hvalue
      exact Shape.read_eq_error_iff_not_takes.mpr ⟨htakes, rfl⟩
    | @mismatch shape hshape hother htakes =>
      refine Or.inr ⟨shape, _, hshape, ?_, rfl⟩
      refine Shape.read_eq_error_iff_not_takes.mpr ⟨htakes, ?_⟩
      unfold Shape.refusal
      split
      · exact absurd ⟨rfl, rfl⟩ hother
      · rfl

/-- What a schema blames it does not take. -/
theorem Blames.not_takes {error : SearchError} (h : schema.Blames name value error) :
    ¬ schema.Takes name value := by
  intro htakes
  obtain ⟨setting, hok⟩ := exists_read_eq_ok_iff.mpr htakes
  rw [read_eq_error_iff_blames.mpr h] at hok
  simp at hok

/-- Reading fails at the offending option whose name has the least bytes. -/
theorem settings_eq_error_iff {options : OptionSet} {error : SearchError} :
    schema.settings options = .error error ↔
      ∃ name value, options.get? name = some value ∧ schema.Blames name value error ∧
        ∀ other otherValue, options.get? other = some otherValue →
          ¬ schema.Takes other otherValue → other ≠ name →
            Text.utf8 name < Text.utf8 other := by
  rw [settings, readAll_eq_error_iff]
  simp only [read_eq_error_iff_blames, exists_read_eq_ok_iff, Text.utf8_lt_utf8_iff,
    ← NameMap.mem_entries_iff]
  have hincreasing := options.increasing
  constructor
  · rintro ⟨before, name, value, after, hentries, hbefore, hblames⟩
    rw [hentries] at hincreasing ⊢
    refine ⟨name, value, by simp, hblames, ?_⟩
    intro other otherValue hother htakes hne
    obtain ⟨-, hlater, -⟩ := List.pairwise_append.mp hincreasing
    rcases List.mem_append.mp hother with hmem | hmem
    · exact absurd (hbefore _ hmem) htakes
    · rcases List.mem_cons.mp hmem with heq | hafter
      · exact absurd (Prod.mk.inj heq).1 hne
      · exact (List.pairwise_cons.mp hlater).1 _ hafter
  · rintro ⟨name, value, hmem, hblames, hleast⟩
    obtain ⟨before, after, hentries⟩ := List.append_of_mem hmem
    refine ⟨before, name, value, after, hentries, ?_, hblames⟩
    rintro ⟨other, otherValue⟩ hother
    rw [hentries] at hincreasing hleast
    have hlt : other < name :=
      (List.pairwise_append.mp hincreasing).2.2 _ hother _ List.mem_cons_self
    apply Classical.byContradiction
    intro htakes
    have hgt : name < other := hleast other otherValue (List.mem_append_left _ hother) htakes
      (fun heq => String.lt_irrefl name (heq ▸ hlt))
    exact String.lt_asymm hlt hgt

/-- An error of an option set stays if a value that is taken takes the place of another. -/
theorem settings_insert_eq_error {options : OptionSet} {value' : Supplied} {error : SearchError}
    (htakes : schema.Takes name value) (htakes' : schema.Takes name value')
    (h : schema.settings (options.insert name value) = .error error) :
    schema.settings (options.insert name value') = .error error := by
  rw [settings_eq_error_iff] at h ⊢
  obtain ⟨blamed, found, hfound, hblames, hleast⟩ := h
  have hne : blamed ≠ name := by
    rintro rfl
    rw [NameMap.get?_insert_self] at hfound
    obtain rfl := Option.some.inj hfound
    exact hblames.not_takes htakes
  rw [NameMap.get?_insert, if_neg hne] at hfound
  refine ⟨blamed, found, by rw [NameMap.get?_insert, if_neg hne, hfound], hblames, ?_⟩
  intro other otherValue hother hnot hdiffers
  by_cases hname : other = name
  · subst hname
    rw [NameMap.get?_insert_self] at hother
    obtain rfl := Option.some.inj hother
    exact absurd htakes' hnot
  · rw [NameMap.get?_insert, if_neg hname] at hother
    exact hleast other otherValue (by rw [NameMap.get?_insert, if_neg hname, hother]) hnot hdiffers

/-- An option set is read exactly if the schema takes every option of it. -/
theorem exists_settings_eq_ok_iff {options : OptionSet} :
    (∃ settings, schema.settings options = .ok settings) ↔
      ∀ name value, options.get? name = some value → schema.Takes name value := by
  constructor
  · rintro ⟨settings, hsettings⟩ name value hvalue
    have hmem := (options.mem_entries_iff name value).mpr hvalue
    obtain ⟨setting, hread, -⟩ := (get?_readAll options.increasing hsettings name).1 value hmem
    exact exists_read_eq_ok_iff.mp ⟨setting, hread⟩
  · intro htakes
    cases hsettings : schema.settings options with
    | ok settings => exact ⟨settings, rfl⟩
    | error error =>
      obtain ⟨name, value, hvalue, hblames, -⟩ := settings_eq_error_iff.mp hsettings
      exact absurd (htakes name value hvalue) hblames.not_takes

/-- The options of a list are read if the schema takes each of its pairs. -/
theorem exists_settings_ofList {pairs : List (String × Supplied)}
    (h : ∀ pair ∈ pairs, schema.Takes pair.1 pair.2) :
    ∃ settings, schema.settings (NameMap.ofList pairs) = .ok settings := by
  rw [exists_settings_eq_ok_iff]
  intro name value hvalue
  obtain ⟨before, after, rfl, -⟩ := NameMap.get?_ofList_eq_some_iff.mp hvalue
  exact h (name, value) (by simp)

/--
A schema accepts an option set exactly if it has every supplied option, with the value in
the domain of its shape. Otherwise the error is that of the offending option whose name
has the least UTF-8 bytes, whatever the other options are.
-/
theorem settings_accepted_or_least_blamed (schema : Schema) (options : OptionSet) :
    ((∃ settings, schema.settings options = .ok settings) ↔
      ∀ name value, options.get? name = some value → schema.Takes name value) ∧
    ∀ error, schema.settings options = .error error ↔
      ∃ name value, options.get? name = some value ∧ schema.Blames name value error ∧
        ∀ other otherValue, options.get? other = some otherValue →
          ¬ schema.Takes other otherValue → other ≠ name →
            Text.utf8 name < Text.utf8 other := by
  exact ⟨exists_settings_eq_ok_iff, fun error => settings_eq_error_iff⟩

end Schema

end FacetedSearch
