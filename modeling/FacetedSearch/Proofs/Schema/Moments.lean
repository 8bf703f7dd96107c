import FacetedSearch.Catalog
import FacetedSearch.Proofs.Schema.Reading
import FacetedSearch.Proofs.Time.Acceptance

/-!
# Texts of moments

An option for a moment takes a text exactly if it has the form of a timestamp, strictly or
loosely written. The documented forms are among these, and so are texts that are not documented.
-/

namespace FacetedSearch

/-- A text is a moment if it can be read as a timestamp. -/
theorem Shape.exists_read_moment_iff {text : String} :
    (∃ setting, Shape.moment.read (.text text) = .ok setting) ↔
      ∃ t, Time.readTimestamp text = some t := by
  have hvalue : Supplied.text text ≠ .null := by simp
  simp only [read_eq_ok_iff hvalue, setting?, Supplied.instant?, Option.map_eq_some_iff]
  constructor
  · rintro ⟨setting, t, ht, -⟩
    exact ⟨t, ht⟩
  · rintro ⟨t, ht⟩
    exact ⟨_, t, ht, rfl⟩

/--
An option for a moment takes a text exactly if it is, without the blanks around it, a day and a time
of day with an offset, or a day with or without a time of day in which numbers may have
fewer digits or blanks before them, the year a sign, and the separator may be missing; the
calendar has the day and the clock shows the time. Among these are all documented forms. Any other
text is an unreadable date.
-/
theorem moment_text_taken_iff {schema : Schema} {name : String}
    (hshape : schema.shapes.get? name = some .moment) (text : String) :
    ((∃ setting, schema.read name (.text text) = .ok setting) ↔
      Time.IsZoned (Text.trim text.toList) ∨ Time.IsLoose (Text.trim text.toList)) ∧
    (Time.IsDocumented (Text.trim text.toList) →
      ∃ setting, schema.read name (.text text) = .ok setting) ∧
    (¬ (Time.IsZoned (Text.trim text.toList) ∨ Time.IsLoose (Text.trim text.toList)) →
      schema.read name (.text text) = .error (.refused name (.unreadableDate text))) := by
  have hread (setting : Setting) : schema.read name (.text text) = .ok setting ↔
      Shape.moment.read (.text text) = .ok setting := by
    simp [Schema.read_eq_ok_iff, hshape]
  simp only [hread, Shape.exists_read_moment_iff]
  refine ⟨Time.exists_readTimestamp_iff, fun hdocumented =>
    Time.exists_readTimestamp_iff.mpr hdocumented.zoned_or_loose, fun hrefused => ?_⟩
  rw [← Time.exists_readTimestamp_iff, not_exists] at hrefused
  have hnone : Shape.moment.setting? (.text text) = none := by
    rw [Shape.setting?, Supplied.instant?, Option.eq_none_iff_forall_ne_some.mpr hrefused]
    rfl
  have hrefusal : Shape.moment.read (.text text) = .error (.unreadableDate text) :=
    Shape.read_eq_error_iff.mpr ⟨by simp, hnone, rfl⟩
  exact Schema.read_eq_error_iff.mpr (.inr ⟨.moment, _, hshape, hrefusal, rfl⟩)

/-- A signed year, short numbers and blanks before them are taken. -/
theorem loosely_written_moment_taken :
    ∃ setting, Collection.messages.schema.read "created_before" (.text "\t-44-3-15 7: 5:00") =
      .ok setting := by
  have hshape : Collection.messages.schema.shapes.get? "created_before" = some .moment := by
    decide +kernel
  let number (blanks digits : List Char) (h : blanks.all Text.isBlank = true)
      (h' : digits.all Char.isDigit = true ∧ 1 ≤ digits.length ∧ digits.length ≤ 2) :
      Time.LooseNumber :=
    ⟨blanks, digits, List.all_eq_true.mp h, List.all_eq_true.mp h'.1, h'.2⟩
  let day : Time.LooseDay :=
    ⟨.signed true ['4', '4'] (List.all_eq_true.mp rfl) (by simp),
      number [] ['3'] rfl (by decide), number [] ['1', '5'] rfl (by decide)⟩
  let time : Time.LooseTime :=
    ⟨number [' '] ['7'] rfl (by decide), number [' '] ['5'] rfl (by decide),
      number [] ['0', '0'] rfl (by decide), [], by simp⟩
  have hday : day.Exists :=
    ⟨by decide, ⟨-44, 3, 15, by decide, by decide⟩, rfl, rfl, rfl⟩
  have htime : time.InRange := ⟨by decide, by decide, by decide⟩
  obtain ⟨htaken, -, -⟩ := moment_text_taken_iff hshape "\t-44-3-15 7: 5:00"
  exact htaken.mpr (.inr (Time.IsLoose.apart hday htime (.inl rfl)))

/-- Numbers of one digit and a missing separator are taken, although no documented form has them. -/
theorem undocumented_moments_taken :
    (Collection.transactions.schema.read "created_before" (.text "2024-1-5 1:2:3") =
        .ok (.moment (some "2024-01-05T01:02:03.000Z")) ∧
      ¬ Time.IsDocumented (Text.trim "2024-1-5 1:2:3".toList)) ∧
    Collection.transactions.schema.read "created_before" (.text "2024-01-1510:00:00") =
        .ok (.moment (some "2024-01-15T10:00:00.000Z")) ∧
      ¬ Time.IsDocumented (Text.trim "2024-01-1510:00:00".toList) := by
  have hshape : Collection.transactions.schema.shapes.get? "created_before" = some .moment := by
    decide +kernel
  have htaken {text canonical : String}
      (h : (Time.readTimestamp text).map Instant.canonical = some canonical) :
      Collection.transactions.schema.read "created_before" (.text text) =
        .ok (.moment (some canonical)) := by
    obtain ⟨t, ht, rfl⟩ := Option.map_eq_some_iff.mp h
    exact Schema.read_eq_ok_iff.mpr ⟨.moment, hshape, Shape.read_moment ht⟩
  refine ⟨⟨htaken (by decide +kernel), fun hdocumented => ?_⟩,
    htaken (by decide +kernel), fun hdocumented => ?_⟩
  · have hseparator := hdocumented.separator_of_head?_drop ':' rfl
    simp at hseparator
  · have hseparator := hdocumented.separator_of_head?_drop '1' rfl
    simp at hseparator

end FacetedSearch
