import FacetedSearch.Proofs.Time.Canonical
import FacetedSearch.Proofs.Time.Spellings

/-!
# Timestamps with an offset

A timestamp with an offset from universal time denotes an instant exactly if the calendar has
its day and the clock shows its time. Its seconds are counted from the day, the time of day and
the offset, whatever day, month or year the instant falls in.
-/

namespace FacetedSearch

namespace Time

variable {fields : Fields} {t : Instant}

/-- Numbers denote an instant if the year can be read, the day exists and the time is in range. -/
theorem Fields.toInstant?_eq_some_iff :
    fields.toInstant? = some t ↔ (firstYear ≤ fields.year ∧ fields.year ≤ lastYear) ∧
      ∃ date : Date, (date.year = fields.year ∧ date.month = fields.month ∧
        date.day = fields.day) ∧ ∃ h : fields.TimeInRange, fields.toInstant date h = t := by
  constructor
  · intro ht
    unfold toInstant? at ht
    split at ht
    · next hyear =>
      split at ht
      · next date hdate =>
        split at ht
        · next htime =>
          exact ⟨hyear, date, Date.ofFields?_eq_some_iff.mp hdate, htime, Option.some.inj ht⟩
        · simp at ht
      · simp at ht
    · simp at ht
  · rintro ⟨hyear, date, hdate, htime, rfl⟩
    rw [toInstant?, if_pos hyear, Date.ofFields?_eq_some_iff.mpr hdate]
    exact dif_pos htime

theorem WrittenDay.year_bounds (day : WrittenDay) :
    firstYear ≤ (day.year.value : Int) ∧ (day.year.value : Int) ≤ lastYear := by
  have hlt : day.year.value < 10000 := day.year.value_lt
  simp only [firstYear, lastYear]
  omega

/-- The clock shows a time exactly if its numbers are in range. -/
theorem timeInRange_write_iff (day : WrittenDay) (time : WrittenTime) (zone : WrittenZone) :
    (zone.write (time.write (day.write {}))).TimeInRange ↔ time.InRange := by
  have hnanos := time.nanos_lt
  simp only [Fields.TimeInRange, WrittenTime.InRange, WrittenZone.write, WrittenTime.write,
    WrittenTime.writeClock]
  omega

/-- The instant of a written timestamp. -/
theorem toInstant?_write_eq_some_iff (day : WrittenDay) (time : WrittenTime)
    (zone : WrittenZone) :
    (zone.write (time.write (day.write {}))).toInstant? = some t ↔
      ∃ date : Date, day.Names date ∧ time.InRange ∧
        t.seconds = 86400 * date.dayNumber + 3600 * time.hour.value + 60 * time.minute.value +
          (min time.second.value 59 : Nat) - zone.seconds ∧
        t.nanos = time.nanos + if time.second.value = 60 then 1000000000 else 0 := by
  have hinstant (date : Date) (h : (zone.write (time.write (day.write {}))).TimeInRange) :
      (zone.write (time.write (day.write {}))).toInstant date h = t ↔
        t.seconds = 86400 * date.dayNumber + 3600 * time.hour.value + 60 * time.minute.value +
          (min time.second.value 59 : Nat) - zone.seconds ∧
        t.nanos = time.nanos + if time.second.value = 60 then 1000000000 else 0 := by
    rw [Instant.eq_iff, zone.seconds_eq]
    simp only [Fields.toInstant, WrittenZone.write, WrittenTime.write, WrittenTime.writeClock]
    by_cases hleap : time.second.value = 60
    · simp only [hleap, if_true]
      omega
    · simp only [hleap, if_false]
      omega
  rw [Fields.toInstant?_eq_some_iff]
  constructor
  · rintro ⟨-, date, hnames, htime, ht⟩
    have hrange := (timeInRange_write_iff day time zone).mp htime
    exact ⟨date, hnames, hrange, (hinstant date htime).mp ht⟩
  · rintro ⟨date, hnames, htime, ht⟩
    have hrange := (timeInRange_write_iff day time zone).mpr htime
    exact ⟨day.year_bounds, date, hnames, hrange, (hinstant date hrange).mpr ht⟩

/-- A day that exists and a time that the clock shows are an instant, at every offset. -/
theorem exists_toInstant?_write_iff (day : WrittenDay) (time : WrittenTime)
    (zone : WrittenZone) :
    (∃ t, (zone.write (time.write (day.write {}))).toInstant? = some t) ↔
      (∃ date, day.Names date) ∧ time.InRange := by
  simp only [Fields.toInstant?_eq_some_iff]
  constructor
  · rintro ⟨t, -, date, hnames, htime, -⟩
    exact ⟨⟨date, hnames⟩, (timeInRange_write_iff day time zone).mp htime⟩
  · rintro ⟨⟨date, hnames⟩, htime⟩
    have hrange := (timeInRange_write_iff day time zone).mpr htime
    exact ⟨_, day.year_bounds, date, hnames, hrange, rfl⟩

end Time

/--
A timestamp with an offset, in any of its spellings and with blanks around it, is read exactly if
the calendar has its day and the clock shows its time, second 60 being a leap second. The instant
counts 86400 seconds for each day from 1 January 1970 to that day, the seconds of the time of day
and those of the offset back, and the nanoseconds of the fraction.
-/
theorem zoned_timestamps_denote (day : Time.WrittenDay) (time : Time.WrittenTime)
    (zone : Time.WrittenZone) {separator : Char}
    (hseparator : separator = 'T' ∨ separator = 't' ∨ separator = ' ') {before after : List Char}
    (hbefore : ∀ c ∈ before, Text.isBlank c = true)
    (hafter : ∀ c ∈ after, Text.isBlank c = true) {text : String}
    (htext : text = String.ofList
      (before ++ (day.text ++ separator :: (time.text ++ zone.text)) ++ after)) :
    ((∃ t, Time.readTimestamp text = some t) ↔
      (∃ date, day.Names date) ∧ time.InRange) ∧
    ∀ t, Time.readTimestamp text = some t →
      ∃ date days, day.Names date ∧ Date.epoch.DaysUntil date days ∧
        t.seconds = 86400 * days + 3600 * time.hour.value + 60 * time.minute.value +
          (min time.second.value 59 : Nat) - zone.seconds ∧
        t.nanos = time.nanos + if time.second.value = 60 then 1000000000 else 0 := by
  subst htext
  rw [Time.readTimestamp_zoned day time zone hseparator hbefore hafter]
  refine ⟨Time.exists_toInstant?_write_iff day time zone, ?_⟩
  intro t ht
  obtain ⟨date, hnames, -, hseconds, hnanos⟩ :=
    (Time.toInstant?_write_eq_some_iff day time zone).mp ht
  exact ⟨date, date.dayNumber, hnames, Date.epoch_daysUntil_iff.mpr rfl, hseconds, hnanos⟩

/--
On the first day of the year 0 and far ahead of universal time, a leap second lies in the last day
of the year before.
-/
theorem leap_second_before_year_zero :
    ∃ t, Time.readTimestamp "\t0000-01-01t00:00:60.5+23:59 " = some t ∧
      t.seconds = -62167305481 ∧ t.nanos = 1500000000 ∧
      t.canonical = "-0001-12-31T00:01:60.500Z" := by
  let one : Time.Numeral 2 := ⟨['0', '1'], rfl, List.all_eq_true.mp rfl⟩
  let sixty : Time.Numeral 2 := ⟨['6', '0'], rfl, List.all_eq_true.mp rfl⟩
  let day : Time.WrittenDay :=
    ⟨⟨['0', '0', '0', '0'], rfl, List.all_eq_true.mp rfl⟩, one, one⟩
  let time : Time.WrittenTime := ⟨.zero, .zero, sixty, ['5'], List.all_eq_true.mp rfl⟩
  let zone : Time.WrittenZone :=
    .ahead ⟨['2', '3'], rfl, List.all_eq_true.mp rfl⟩ ⟨['5', '9'], rfl, List.all_eq_true.mp rfl⟩
      (by decide)
  have hday : day.Names ⟨0, 1, 1, by decide, by decide⟩ := ⟨rfl, rfl, rfl⟩
  have htime : time.InRange := ⟨by decide, by decide, by decide⟩
  have hbefore : ∀ c ∈ ['\t'], Text.isBlank c = true := List.all_eq_true.mp rfl
  have hafter : ∀ c ∈ [' '], Text.isBlank c = true := List.all_eq_true.mp rfl
  have htext : "\t0000-01-01t00:00:60.5+23:59 " = String.ofList
      (['\t'] ++ (day.text ++ 't' :: (time.text ++ zone.text)) ++ [' ']) := rfl
  obtain ⟨hread, hvalue⟩ :=
    zoned_timestamps_denote day time zone (.inr (.inl rfl)) hbefore hafter htext
  obtain ⟨t, ht⟩ := hread.mpr ⟨⟨_, hday⟩, htime⟩
  obtain ⟨date, days, ⟨hyear, hmonth, hdate⟩, hdays, hseconds, hnanos⟩ := hvalue t ht
  obtain rfl : date = ⟨0, 1, 1, by decide, by decide⟩ := Date.eq_iff.mpr ⟨hyear, hmonth, hdate⟩
  obtain rfl : days = -719528 :=
    (Date.epoch_daysUntil_iff.mp hdays).trans (by decide +kernel)
  obtain rfl : t = ⟨-62167305481, 1500000000, by decide, by decide⟩ :=
    Instant.eq_iff.mpr ⟨hseconds.trans (by decide +kernel), hnanos.trans (by decide +kernel)⟩
  exact ⟨_, ht, rfl, rfl, by decide +kernel⟩

end FacetedSearch
