import FacetedSearch.Proofs.Time.Offsets

/-!
# What the strict layout reads

The layout with an offset reads a written day, a separator, a written time of day and a written
offset, and no other text.
-/

namespace FacetedSearch.Time

variable {parts : List Part} {fields fields' : Fields} {text rest : List Char}

/-! ### Days, times of day and offsets -/

theorem WrittenDay.exists_of_readParts
    (h : readParts (strictDay ++ parts) fields text = some (fields', rest)) :
    ∃ (day : WrittenDay) (after : List Char), text = day.text ++ after ∧
      readParts parts (day.write fields) after = some (fields', rest) := by
  obtain ⟨year, _, hyear, h⟩ := readParts_exactly_eq_some h
  obtain ⟨_, hfirst, h⟩ := readParts_mark_singleton_eq_some_iff.mp h
  obtain ⟨month, _, hmonth, h⟩ := readParts_exactly_eq_some h
  obtain ⟨_, hsecond, h⟩ := readParts_mark_singleton_eq_some_iff.mp h
  obtain ⟨day, after, hday, h⟩ := readParts_exactly_eq_some h
  refine ⟨⟨year, month, day⟩, after, ?_, h⟩
  rw [hyear, hfirst, hmonth, hsecond, hday]
  simp only [WrittenDay.text, List.append_assoc, List.cons_append]

theorem WrittenTime.fractionText_eq (time : WrittenTime) :
    time.fractionText = pointed time.fraction := rfl

theorem WrittenTime.exists_of_readParts
    (h : readParts (strictTime ++ parts) fields text = some (fields', rest)) :
    ∃ (time : WrittenTime) (after : List Char), text = time.text ++ after ∧
      readParts parts (time.write fields) after = some (fields', rest) := by
  obtain ⟨hour, _, hhour, h⟩ := readParts_exactly_eq_some h
  obtain ⟨_, hfirst, h⟩ := readParts_mark_singleton_eq_some_iff.mp h
  obtain ⟨minute, _, hminute, h⟩ := readParts_exactly_eq_some h
  obtain ⟨_, hsecond, h⟩ := readParts_mark_singleton_eq_some_iff.mp h
  obtain ⟨second, _, hdigits, h⟩ := readParts_exactly_eq_some h
  obtain ⟨fraction, after, hfraction, hpointed, h⟩ := readParts_fraction_eq_some h
  let time : WrittenTime := ⟨hour, minute, second, fraction, hfraction⟩
  refine ⟨time, after, ?_, ?_⟩
  · rw [hhour, hfirst, hminute, hsecond, hdigits, hpointed]
    simp only [time, WrittenTime.text, WrittenTime.clock, WrittenTime.fractionText_eq,
      List.append_assoc, List.cons_append]
  · rw [WrittenTime.write, time.nanos_eq]
    exact h

/-- An offset is read from hours and minutes in their ranges. -/
theorem readOffset_eq_some {n : Nat} (h : readOffset text = some (n, rest)) :
    ∃ hours minutes : Numeral 2, (hours.value ≤ 23 ∧ minutes.value ≤ 59) ∧
      text = hours.digits ++ ':' :: (minutes.digits ++ rest) := by
  obtain ⟨⟨_, between⟩, hhours, h⟩ := Option.bind_eq_some_iff.mp h
  obtain ⟨hours, rfl, rfl⟩ := readExactly_eq_some_iff.mp hhours
  dsimp only at h
  split at h
  · next after =>
    obtain ⟨⟨_, final⟩, hminutes, h⟩ := Option.bind_eq_some_iff.mp h
    obtain ⟨minutes, rfl, rfl⟩ := readExactly_eq_some_iff.mp hminutes
    simp only [Option.ite_none_right_eq_some, Option.some.injEq, Prod.mk.injEq] at h
    obtain ⟨⟨hhour, hminute⟩, -, rfl⟩ := h
    exact ⟨hours, minutes, by omega, rfl⟩
  · simp at h

theorem WrittenZone.exists_of_read (h : Part.zone.read fields text = some (fields', rest)) :
    ∃ zone : WrittenZone, text = zone.text ++ rest := by
  obtain ⟨n, hzone⟩ := exists_of_map_eq_some h fun _ => rfl
  unfold readZone at hzone
  split at hzone
  · obtain ⟨-, rfl⟩ := Prod.mk.inj (Option.some.inj hzone)
    exact ⟨.universal 'Z' (.inl rfl), rfl⟩
  · obtain ⟨-, rfl⟩ := Prod.mk.inj (Option.some.inj hzone)
    exact ⟨.universal 'z' (.inr rfl), rfl⟩
  · obtain ⟨offset, hoffset⟩ := exists_of_map_eq_some hzone fun _ => rfl
    obtain ⟨hours, minutes, hrange, rfl⟩ := readOffset_eq_some hoffset
    exact ⟨.ahead hours minutes hrange, by simp [WrittenZone.text]⟩
  · obtain ⟨offset, hoffset⟩ := exists_of_map_eq_some hzone fun _ => rfl
    obtain ⟨hours, minutes, hrange, rfl⟩ := readOffset_eq_some hoffset
    exact ⟨.behind '-' (.inl rfl) hours minutes hrange, by simp [WrittenZone.text]⟩
  · obtain ⟨offset, hoffset⟩ := exists_of_map_eq_some hzone fun _ => rfl
    obtain ⟨hours, minutes, hrange, rfl⟩ := readOffset_eq_some hoffset
    exact ⟨.behind '−' (.inr rfl) hours minutes hrange, by simp [WrittenZone.text]⟩
  · simp at hzone

/-! ### Whole timestamps -/

/-- Only a day and a time of day with an offset are read by the strict layout. -/
theorem exists_of_readBy_zoned {t : Instant} (h : readBy zonedLayout text = some t) :
    ∃ (day : WrittenDay) (separator : Char) (time : WrittenTime) (zone : WrittenZone),
      (separator = 'T' ∨ separator = 't' ∨ separator = ' ') ∧
        text = day.text ++ separator :: (time.text ++ zone.text) := by
  obtain ⟨fields, hparts, -⟩ := readBy_eq_some_iff.mp h
  rw [zonedLayout, List.append_assoc, List.append_assoc] at hparts
  obtain ⟨day, _, hday, hparts⟩ := WrittenDay.exists_of_readParts hparts
  obtain ⟨separator, hmem, _, hseparator, hparts⟩ := readParts_mark_eq_some_iff.mp hparts
  obtain ⟨time, _, htime, hparts⟩ := WrittenTime.exists_of_readParts hparts
  obtain ⟨_, _, hread, hend⟩ := readParts_cons_eq_some_iff.mp hparts
  obtain ⟨zone, hzone⟩ := WrittenZone.exists_of_read hread
  obtain ⟨-, rfl⟩ := Prod.mk.inj (Option.some.inj hend)
  refine ⟨day, separator, time, zone, by simpa using hmem, ?_⟩
  rw [hday, hseparator, htime, hzone, List.append_nil]

/-- The strict layout reads the days and times of day with an offset that there are. -/
theorem exists_readBy_zoned_iff : (∃ t, readBy zonedLayout text = some t) ↔ IsZoned text := by
  constructor
  · rintro ⟨t, ht⟩
    obtain ⟨day, separator, time, zone, hseparator, rfl⟩ := exists_of_readBy_zoned ht
    rw [readBy_zoned day time zone hseparator] at ht
    obtain ⟨hday, htime⟩ := (exists_toInstant?_write_iff day time zone).mp ⟨t, ht⟩
    exact .intro zone hseparator hday htime
  · rintro ⟨zone, hseparator, hday, htime⟩
    rw [readBy_zoned _ _ zone hseparator]
    exact (exists_toInstant?_write_iff _ _ zone).mpr ⟨hday, htime⟩

end FacetedSearch.Time
