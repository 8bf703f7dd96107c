import FacetedSearch.Proofs.NameMap
import FacetedSearch.Schema
import Mathlib.Data.List.Forall2

/-!
# Reading option sets

An option set is read option by option, so its settings are known name by name: the
setting of a name is what its shape reads in the supplied value, where an option that
was not supplied counts as null. Reading fails at the first option that cannot be read, and
which one that is does not depend on the settings read before it.
-/

namespace FacetedSearch

/-- The value of an option; an option that was not supplied counts as null. -/
def OptionSet.value (options : OptionSet) (name : String) : Supplied :=
  (options.get? name).getD .null

/-- A value that is not null was supplied. -/
theorem OptionSet.get?_of_value_ne_null {options : OptionSet} {name : String}
    (h : options.value name ≠ .null) : options.get? name = some (options.value name) := by
  cases hfound : options.get? name with
  | none => simp [value, hfound] at h
  | some found => simp [value, hfound]

/-! ### One option -/

namespace Supplied

/-- Only null is explicitly no value. -/
theorem isNull_iff (value : Supplied) : value.isNull = true ↔ value = .null := by
  cases value <;> simp [isNull]

/-- A value that is not a list is read as a single one. -/
theorem references?_eq_reference? {value : Supplied} (h : ∀ items, value ≠ .list items) :
    value.references? = value.reference? := by
  cases value with
  | list items => exact absurd rfl (h items)
  | _ => rfl

theorem ne_null_of_instant? {value : Supplied} {t : Instant} (h : value.instant? = some t) :
    value ≠ .null := by
  rintro rfl
  simp [instant?] at h

end Supplied

namespace Shape

@[simp] theorem read_null (shape : Shape) : shape.read .null = .ok shape.inert := rfl

/-- A value that is not null is read by its shape. -/
theorem read_eq_ok_iff {shape : Shape} {value : Supplied} {setting : Setting}
    (hvalue : value ≠ .null) :
    shape.read value = .ok setting ↔ shape.setting? value = some setting := by
  rw [read, if_neg (mt value.isNull_iff.mp hvalue)]
  cases shape.setting? value with
  | none => simp
  | some found => simp

/-- A value is refused exactly if it is not null and does not have the shape. -/
theorem read_eq_error_iff {shape : Shape} {value : Supplied} {refusal : Refusal} :
    shape.read value = .error refusal ↔
      value ≠ .null ∧ shape.setting? value = none ∧ refusal = shape.refusal value := by
  by_cases hvalue : value = .null
  · simp [hvalue]
  · rw [read, if_neg (mt value.isNull_iff.mp hvalue)]
    cases shape.setting? value with
    | none => simp [hvalue, eq_comm]
    | some found => simp

/-- A value that denotes an instant is read as its canonical text. -/
theorem read_moment {value : Supplied} {t : Instant} (h : value.instant? = some t) :
    Shape.moment.read value = .ok (.moment (some t.canonical)) := by
  rw [read_eq_ok_iff (Supplied.ne_null_of_instant? h), setting?, h]
  rfl

end Shape

namespace Schema

variable {schema : Schema}

/-- An option is read if the schema has it and its value has the shape. -/
theorem read_eq_ok_iff {name : String} {value : Supplied} {setting : Setting} :
    schema.read name value = .ok setting ↔
      ∃ shape, schema.shapes.get? name = some shape ∧ shape.read value = .ok setting := by
  rw [read]
  cases schema.shapes.get? name with
  | none => simp
  | some shape =>
    cases hread : shape.read value with
    | error refusal => simp [Except.mapError, hread]
    | ok found => simp [Except.mapError, hread]

/-- The errors of one option: it is unknown, or its shape refuses the value. -/
theorem read_eq_error_iff {name : String} {value : Supplied} {error : SearchError} :
    schema.read name value = .error error ↔
      (schema.shapes.get? name = none ∧ error = .unknownOption schema.collection name) ∨
        ∃ shape refusal, schema.shapes.get? name = some shape ∧
          shape.read value = .error refusal ∧ error = .refused name refusal := by
  rw [read]
  cases schema.shapes.get? name with
  | none => simp [eq_comm]
  | some shape =>
    cases hread : shape.read value with
    | error refusal => simp [Except.mapError, hread, eq_comm]
    | ok found => simp [Except.mapError, hread]

/-! ### All options -/

/-- Reading entries fails exactly at the first entry that cannot be read. -/
theorem readAll_eq_error_iff {entries : List (String × Supplied)} {settings : Settings}
    {error : SearchError} :
    schema.readAll entries settings = .error error ↔
      ∃ before name value after, entries = before ++ (name, value) :: after ∧
        (∀ entry ∈ before, ∃ setting, schema.read entry.1 entry.2 = .ok setting) ∧
        schema.read name value = .error error := by
  induction entries generalizing settings with
  | nil => simp [readAll]
  | cons entry rest ih =>
    obtain ⟨name, value⟩ := entry
    rw [readAll]
    cases hread : schema.read name value with
    | error found =>
      simp only [Except.error.injEq]
      constructor
      · rintro rfl
        exact ⟨[], name, value, rest, rfl, by simp, hread⟩
      · rintro ⟨before, other, otherValue, after, hentries, hbefore, herror⟩
        cases before with
        | nil =>
          obtain ⟨hpair, -⟩ := List.cons.inj hentries
          obtain ⟨rfl, rfl⟩ := Prod.mk.inj hpair
          exact Except.error.inj (hread.symm.trans herror)
        | cons first before =>
          obtain ⟨rfl, -⟩ := List.cons.inj hentries
          obtain ⟨setting, hsetting⟩ := hbefore _ List.mem_cons_self
          rw [hread] at hsetting
          simp at hsetting
    | ok found =>
      simp only [ih]
      constructor
      · rintro ⟨before, other, otherValue, after, rfl, hbefore, herror⟩
        refine ⟨(name, value) :: before, other, otherValue, after, rfl, ?_, herror⟩
        rw [List.forall_mem_cons]
        exact ⟨⟨found, hread⟩, hbefore⟩
      · rintro ⟨before, other, otherValue, after, hentries, hbefore, herror⟩
        cases before with
        | nil =>
          obtain ⟨hpair, -⟩ := List.cons.inj hentries
          obtain ⟨rfl, rfl⟩ := Prod.mk.inj hpair
          rw [hread] at herror
          simp at herror
        | cons first before =>
          obtain ⟨rfl, hrest⟩ := List.cons.inj hentries
          exact ⟨before, other, otherValue, after, hrest,
            (List.forall_mem_cons.mp hbefore).2, herror⟩

/-- Entries in order of their names leave what was read in each, and all else as it was. -/
theorem get?_readAll {entries : List (String × Supplied)} {settings result : Settings}
    (hincreasing : entries.Pairwise (·.1 < ·.1)) (h : schema.readAll entries settings = .ok result)
    (name : String) :
    (∀ value, (name, value) ∈ entries →
      ∃ setting, schema.read name value = .ok setting ∧ result.get? name = some setting) ∧
    ((∀ entry ∈ entries, entry.1 ≠ name) → result.get? name = settings.get? name) := by
  induction entries generalizing settings with
  | nil =>
    obtain rfl := Except.ok.inj h
    simp
  | cons entry rest ih =>
    obtain ⟨key, written⟩ := entry
    obtain ⟨hfirst, hrest⟩ := List.pairwise_cons.mp hincreasing
    rw [readAll] at h
    cases hread : schema.read key written with
    | error found => simp [hread] at h
    | ok found =>
      simp only [hread] at h
      obtain ⟨hread', hkept⟩ := ih hrest h
      have hinsert : Settings.get? ⟨settings.values.insert key found⟩ name =
          if name = key then some found else settings.get? name :=
        NameMap.get?_insert settings.values key name found
      constructor
      · intro value hmem
        rcases List.mem_cons.mp hmem with hhead | htail
        · obtain ⟨rfl, rfl⟩ := Prod.mk.inj hhead
          refine ⟨found, hread, ?_⟩
          rw [hkept, hinsert, if_pos rfl]
          exact fun other hother heq => String.lt_irrefl name (heq ▸ hfirst other hother)
        · exact hread' value htail
      · intro hnone
        obtain ⟨hkey, hothers⟩ := List.forall_mem_cons.mp hnone
        rw [hkept hothers, hinsert, if_neg (Ne.symm hkey)]

/-- The setting of a name is what its shape reads in the supplied value. -/
theorem get?_settings {options : OptionSet} {settings : Settings}
    (h : schema.settings options = .ok settings) (name : String) :
    settings.get? name = (schema.shapes.get? name).bind fun shape =>
      (shape.read (options.value name)).toOption := by
  obtain ⟨hread, hkept⟩ := get?_readAll options.increasing h name
  cases hvalue : options.get? name with
  | none =>
    have habsent : ∀ entry ∈ options.entries, entry.1 ≠ name := by
      rintro ⟨other, value⟩ hentry rfl
      rw [(options.mem_entries_iff other value).mp hentry] at hvalue
      simp at hvalue
    have hdefault : schema.defaults.get? name = (schema.shapes.get? name).map Shape.inert :=
      NameMap.get?_map Shape.inert schema.shapes name
    rw [hkept habsent, hdefault, OptionSet.value, hvalue]
    cases schema.shapes.get? name <;> rfl
  | some value =>
    obtain ⟨setting, hok, hsetting⟩ := hread value ((options.mem_entries_iff name value).mpr hvalue)
    obtain ⟨shape, hshape, hshaped⟩ := read_eq_ok_iff.mp hok
    rw [hsetting, hshape, OptionSet.value, hvalue, Option.bind_some, Option.getD_some, hshaped]
    rfl

/-- Option sets with the same value of a name give it the same setting. -/
theorem get?_settings_congr {options options' : OptionSet} {settings settings' : Settings}
    (h : schema.settings options = .ok settings) (h' : schema.settings options' = .ok settings')
    {name : String} (hname : options.get? name = options'.get? name) :
    settings.get? name = settings'.get? name := by
  rw [get?_settings h, get?_settings h', OptionSet.value, OptionSet.value, hname]

/-- Every option of an option set that is read is null or has its shape. -/
theorem settings_cases {options : OptionSet} {settings : Settings}
    (h : schema.settings options = .ok settings) {name : String} {shape : Shape}
    (hshape : schema.shapes.get? name = some shape) :
    (options.value name = .null ∧ settings.get? name = some shape.inert) ∨
      ∃ setting, options.value name ≠ .null ∧
        shape.setting? (options.value name) = some setting ∧
          settings.get? name = some setting := by
  have hget := get?_settings h name
  rw [hshape, Option.bind_some] at hget
  by_cases hvalue : options.value name = .null
  · rw [hvalue] at hget
    exact Or.inl ⟨hvalue, hget⟩
  · have hmem := (options.mem_entries_iff name _).mpr (OptionSet.get?_of_value_ne_null hvalue)
    obtain ⟨setting, hok, hsetting⟩ := (get?_readAll options.increasing h name).1 _ hmem
    obtain ⟨found, hfound, hread⟩ := read_eq_ok_iff.mp hok
    obtain rfl := Option.some.inj (hshape.symm.trans hfound)
    exact Or.inr ⟨setting, hvalue, (Shape.read_eq_ok_iff hvalue).mp hread, hsetting⟩

/-! ### Values that are read alike -/

/-- The settings of entries depend on the names and on what is read under them. -/
theorem readAll_congr {entries entries' : List (String × Supplied)}
    (h : List.Forall₂ (fun entry entry' => entry.1 = entry'.1 ∧
      schema.read entry.1 entry.2 = schema.read entry'.1 entry'.2) entries entries')
    (settings : Settings) : schema.readAll entries settings = schema.readAll entries' settings := by
  induction h generalizing settings with
  | nil => rfl
  | @cons entry entry' rest rest' hentry _ ih =>
    obtain ⟨name, value⟩ := entry
    obtain ⟨name', value'⟩ := entry'
    obtain ⟨rfl, hread⟩ := hentry
    have hvalues : schema.read name value = schema.read name value' := hread
    rw [readAll, readAll, hvalues]
    cases schema.read name value' with
    | error error => rfl
    | ok setting => exact ih ⟨settings.values.insert name setting⟩

/-- Values that are read alike can be put in the place of each other. -/
theorem settings_insert_congr {name : String} {value value' : Supplied}
    (h : schema.read name value = schema.read name value') (options : OptionSet) :
    schema.settings (options.insert name value) = schema.settings (options.insert name value') := by
  have hself (entries : List (String × Supplied)) :
      List.Forall₂ (fun entry entry' => entry.1 = entry'.1 ∧
        schema.read entry.1 entry.2 = schema.read entry'.1 entry'.2) entries entries :=
    List.forall₂_same.mpr fun _ _ => ⟨rfl, rfl⟩
  rw [settings, settings]
  apply readAll_congr
  simp only [NameMap.insert]
  induction options.entries with
  | nil => exact .cons ⟨rfl, h⟩ .nil
  | cons first rest ih =>
    rw [NameMap.insertEntry, NameMap.insertEntry]
    split
    · exact .cons ⟨rfl, h⟩ (hself (first :: rest))
    · split
      · exact .cons ⟨rfl, h⟩ (hself rest)
      · exact .cons ⟨rfl, rfl⟩ ih

/-- Values that the shape of an option reads alike are read alike under its name. -/
theorem read_congr {name : String} {shape : Shape} {value value' : Supplied}
    (hshape : schema.shapes.get? name = some shape) (h : shape.read value = shape.read value') :
    schema.read name value = schema.read name value' := by
  simp only [read, hshape, h]

end Schema

end FacetedSearch
