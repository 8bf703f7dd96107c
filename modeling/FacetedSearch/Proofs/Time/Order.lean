import FacetedSearch.Proofs.Text.ByteOrder
import FacetedSearch.Proofs.Text.Digits
import FacetedSearch.Proofs.Time.Canonical

/-!
# Canonical timestamps in order

In the years 0 to 9999 the canonical texts of instants are ordered, byte by byte, as the
instants cut off to the millisecond are. In all years the texts are equal exactly if the
instants agree to the millisecond.
-/

namespace FacetedSearch

open Text (padded)

/-- A number is not written like another one with a sign in front. -/
theorem Date.padded_ne_signed (width n : Nat) (year : Int) (rest : List Char) :
    padded width n ≠ (if year < 0 then '-' else '+') :: rest := by
  intro h
  have hdigit := Text.isDigit_of_mem_padded (h ▸ List.mem_cons_self)
  split at hdigit
  · exact absurd hdigit (by decide)
  · exact absurd hdigit (by decide)

/-- A written year is the text of no other year. -/
theorem Date.yearText_injective {year year' : Int} (h : yearText year = yearText year') :
    year = year' := by
  have hpadded {m n : Nat} (heq : padded 4 m = padded 4 n) : m = n := by
    rw [← Text.decimalValue_padded 4 m, heq, Text.decimalValue_padded]
  rw [yearText, yearText] at h
  by_cases hfour : 0 ≤ year ∧ year ≤ 9999
  · rw [if_pos hfour] at h
    by_cases hfour' : 0 ≤ year' ∧ year' ≤ 9999
    · rw [if_pos hfour'] at h
      have hvalue := hpadded h
      omega
    · rw [if_neg hfour'] at h
      exact absurd h (padded_ne_signed _ _ _ _)
  · rw [if_neg hfour] at h
    by_cases hfour' : 0 ≤ year' ∧ year' ≤ 9999
    · rw [if_pos hfour'] at h
      exact absurd h.symm (padded_ne_signed _ _ _ _)
    · rw [if_neg hfour'] at h
      obtain ⟨hsign, hdigits⟩ := List.cons.inj h
      have hvalue := hpadded hdigits
      have hsame : year < 0 ↔ year' < 0 := by grind
      omega

namespace Instant

/-- Earlier by seconds, and within one by nanoseconds: a leap second is the end of its second. -/
def Before (a b : Instant) : Prop :=
  a.seconds < b.seconds ∨ a.seconds = b.seconds ∧ a.nanos < b.nanos

variable {a b : Instant}

/-- Hour and minute compare as the minute of the day does. -/
theorem minute_less_iff {later : Prop} :
    (a.hour < b.hour ∨ a.hour = b.hour ∧ (a.minute < b.minute ∨ a.minute = b.minute ∧ later)) ↔
      a.secondOfDay / 60 < b.secondOfDay / 60 ∨
        a.secondOfDay / 60 = b.secondOfDay / 60 ∧ later := by
  have hless : a.secondOfDay / 60 < b.secondOfDay / 60 ↔
      a.hour < b.hour ∨ a.hour = b.hour ∧ a.minute < b.minute := by
    simp only [hour, minute]
    omega
  have hsame : a.secondOfDay / 60 = b.secondOfDay / 60 ↔
      a.hour = b.hour ∧ a.minute = b.minute := by
    simp only [hour, minute]
    omega
  simp only [hless, hsame, and_or_left, or_assoc, and_assoc]

theorem secondOfDay_of_leap (t : Instant) (h : 1000000000 ≤ t.nanos) :
    t.secondOfDay % 60 = 59 := by
  have hleap := t.leap_second h
  simp only [secondOfDay]
  omega

/-- Times of one day compare as their hours, minutes, seconds and milliseconds in turn. -/
theorem time_less_iff (hday : a.seconds / 86400 = b.seconds / 86400) :
    (a.hour < b.hour ∨ a.hour = b.hour ∧ (a.minute < b.minute ∨ a.minute = b.minute ∧
      (a.second < b.second ∨ a.second = b.second ∧ a.millisecond < b.millisecond))) ↔
      a.truncated.Before b.truncated := by
  -- A leap second follows second 59, so it comes before the minute that follows.
  have haleap := a.secondOfDay_of_leap
  have hbleap := b.secondOfDay_of_leap
  have hananos := a.nanos_lt
  have hbnanos := b.nanos_lt
  have hseconds : (a.seconds < b.seconds ↔ a.secondOfDay < b.secondOfDay) ∧
      (a.seconds = b.seconds ↔ a.secondOfDay = b.secondOfDay) := by
    simp only [secondOfDay]
    omega
  rw [minute_less_iff]
  simp only [Before, truncated, hseconds.1, hseconds.2, second, millisecond]
  omega

/-- Instants compare as their days do, and within a day as their times of day. -/
theorem before_truncated_iff :
    a.truncated.Before b.truncated ↔ a.date.Less b.date ∨ a.date = b.date ∧
      (a.hour < b.hour ∨ a.hour = b.hour ∧ (a.minute < b.minute ∨ a.minute = b.minute ∧
        (a.second < b.second ∨ a.second = b.second ∧ a.millisecond < b.millisecond))) := by
  have hdate (t : Instant) : t.date.dayNumber = t.seconds / 86400 := Date.dayNumber_ofDayNumber _
  rw [Date.less_iff_dayNumber_lt, ← Date.dayNumber_inj, hdate, hdate]
  by_cases hday : a.seconds / 86400 = b.seconds / 86400
  · simp only [time_less_iff hday, hday, Int.lt_irrefl, true_and, false_or]
  · simp only [hday, false_and, or_false, Before, truncated]
    omega

/-- In years of four digits the canonical texts are in the order of the instants. -/
theorem text_lt_iff (ha : a.InFourDigitYear) (hb : b.InFourDigitYear) :
    a.text < b.text ↔ a.truncated.Before b.truncated := by
  obtain ⟨hyear, hmonth, hday, hhour, hminute, hsecond, hmillisecond⟩ := length_padded ha
  obtain ⟨hyear', hmonth', hday', hhour', hminute', hsecond', hmillisecond'⟩ := length_padded hb
  have hfirst : (a.date.year.toNat < b.date.year.toNat ↔ a.date.year < b.date.year) ∧
      (a.date.year.toNat = b.date.year.toNat ↔ a.date.year = b.date.year) := by
    have harange : 0 ≤ a.date.year := ha.1
    have hbrange : 0 ≤ b.date.year := hb.1
    omega
  have hdate : a.date = b.date ↔ a.date.year = b.date.year ∧ a.date.month = b.date.month ∧
      a.date.day = b.date.day := Date.eq_iff
  rw [text_eq ha, text_eq hb, Text.padded_append_lt_iff hyear hyear',
    Text.padded_append_lt_iff hmonth hmonth', Text.padded_append_lt_iff hday hday',
    Text.padded_append_lt_iff hhour hhour', Text.padded_append_lt_iff hminute hminute',
    Text.padded_append_lt_iff hsecond hsecond',
    Text.padded_append_lt_iff hmillisecond hmillisecond', before_truncated_iff, hfirst.1,
    hfirst.2, hdate, Date.Less]
  have hend : ¬ ([] : List Char) < [] := List.lt_irrefl []
  simp only [hend, and_false, or_false, and_or_left, or_assoc, and_assoc]

/-- Of two different instants one is earlier. -/
theorem before_or_eq_or_before (a b : Instant) : a.Before b ∨ a = b ∨ b.Before a := by
  rw [eq_iff]
  simp only [Before]
  omega

/-- A canonical text shows every field of its instant. -/
theorem fields_eq_of_text_eq (h : a.text = b.text) :
    a.date = b.date ∧ a.hour = b.hour ∧ a.minute = b.minute ∧ a.second = b.second ∧
      a.millisecond = b.millisecond := by
  obtain ⟨hmonth, hday, hhour, hminute, hsecond, hmillisecond⟩ := a.length_padded_after_year
  obtain ⟨hmonth', hday', hhour', hminute', hsecond', hmillisecond'⟩ := b.length_padded_after_year
  rw [text_eq_yearText, text_eq_yearText] at h
  -- The year has no fixed width, but everything after it has.
  obtain ⟨hyear, hrest⟩ := List.append_inj' h (by
    simp only [List.length_append, List.length_cons, hmonth, hday, hhour, hminute, hsecond,
      hmillisecond, hmonth', hday', hhour', hminute', hsecond', hmillisecond'])
  replace hrest := (List.cons.inj hrest).2
  rw [Text.padded_append_eq_iff hmonth hmonth', Text.padded_append_eq_iff hday hday',
    Text.padded_append_eq_iff hhour hhour', Text.padded_append_eq_iff hminute hminute',
    Text.padded_append_eq_iff hsecond hsecond',
    Text.padded_append_eq_iff hmillisecond hmillisecond'] at hrest
  obtain ⟨hmonth, hday, hhour, hminute, hsecond, hmillisecond, -⟩ := hrest
  exact ⟨Date.eq_iff.mpr ⟨Date.yearText_injective hyear, hmonth, hday⟩, hhour, hminute, hsecond,
    hmillisecond⟩

/-- Canonical texts are equal exactly if the instants agree to the millisecond. -/
theorem canonical_eq_iff : a.canonical = b.canonical ↔ a.truncated = b.truncated := by
  constructor
  · intro h
    have htext : a.text = b.text := String.ofList_injective h
    obtain ⟨hdate, hhour, hminute, hsecond, hmillisecond⟩ := fields_eq_of_text_eq htext
    rcases before_or_eq_or_before a.truncated b.truncated with hless | heq | hless
    · rw [before_truncated_iff, Date.less_iff_dayNumber_lt, hdate, hhour, hminute, hsecond,
        hmillisecond] at hless
      omega
    · exact heq
    · rw [before_truncated_iff, Date.less_iff_dayNumber_lt, hdate, hhour, hminute, hsecond,
        hmillisecond] at hless
      omega
  · intro h
    rw [← canonical_truncated, h, canonical_truncated]

/-- The bytes of canonical texts are in the order of the instants. -/
theorem utf8_canonical_lt_iff (ha : a.InFourDigitYear) (hb : b.InFourDigitYear) :
    Text.utf8 a.canonical < Text.utf8 b.canonical ↔ a.truncated.Before b.truncated := by
  rw [Text.utf8_lt_utf8_iff, ← text_lt_iff ha hb, canonical, canonical, String.lt_iff,
    String.toList_ofList, String.toList_ofList]

end Instant

/--
Canonical timestamps order as instants. In the years of four digits one text is less than another,
byte by byte, exactly if its instant is the earlier one when both are cut off to the millisecond;
in all years the texts are equal exactly if the instants then are.
-/
theorem canonical_timestamps_ordered (a b : Instant) :
    (a.InFourDigitYear → b.InFourDigitYear →
      (Text.utf8 a.canonical < Text.utf8 b.canonical ↔ a.truncated.Before b.truncated)) ∧
    (a.canonical = b.canonical ↔ a.truncated = b.truncated) :=
  ⟨Instant.utf8_canonical_lt_iff, Instant.canonical_eq_iff⟩

/--
The last instant of a leap second comes before the year that follows it, and its text before the
first text of that year; of the year 10000, two instants in one millisecond have the same text.
-/
theorem leap_second_before_new_year :
    ∃ leap year early late : Instant,
      leap.canonical = "2016-12-31T23:59:60.999Z" ∧ year.canonical = "2017-01-01T00:00:00.000Z" ∧
      Text.utf8 leap.canonical < Text.utf8 year.canonical ∧
      early.canonical = "+10000-01-01T00:00:00.001Z" ∧ early ≠ late ∧
      early.canonical = late.canonical := by
  let leap : Instant := ⟨1483228799, 1999999999, by decide, by decide⟩
  let year : Instant := ⟨1483228800, 0, by decide, by decide⟩
  let early : Instant := ⟨253402300800, 1000000, by decide, by decide⟩
  let late : Instant := ⟨253402300800, 1999999, by decide, by decide⟩
  have hleap : leap.InFourDigitYear := by decide +kernel
  have hyear : year.InFourDigitYear := by decide +kernel
  have hbefore : leap.truncated.Before year.truncated := Or.inl (by decide)
  refine ⟨leap, year, early, late, by decide +kernel, by decide +kernel,
    ((canonical_timestamps_ordered leap year).1 hleap hyear).mpr hbefore, by decide +kernel,
    by decide, (canonical_timestamps_ordered early late).2.mpr (by decide)⟩

end FacetedSearch
