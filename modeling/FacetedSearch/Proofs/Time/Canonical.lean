import FacetedSearch.Proofs.Time.Calendar
import FacetedSearch.Proofs.Time.Layout
import Mathlib.Data.List.Forall2

/-!
# Canonical timestamps are read back

In the years 0 to 9999 the canonical text of an instant has a fixed shape, and reading it gives
the instant cut off to the millisecond. Years before and after these are written with a sign,
which the strict layout does not read, and no other layout reads the letter at the end.
-/

namespace FacetedSearch

open Text (padded)

/-- A year begins with a digit, or with a sign unless it has four digits. -/
theorem Date.exists_yearText_eq (year : Int) :
    ∃ first rest, yearText year = first :: rest ∧ Text.isBlank first = false ∧
      (¬ (0 ≤ year ∧ year ≤ 9999) → first.isDigit = false) := by
  by_cases hyear : 0 ≤ year ∧ year ≤ 9999
  · rw [yearText, if_pos hyear]
    cases hpadded : padded 4 year.toNat with
    | nil =>
      have hlength : (padded 4 year.toNat).length = 4 :=
        Time.length_padded_of_lt (by decide) (show year.toNat < 10000 by omega)
      simp [hpadded] at hlength
    | cons first rest =>
      have hdigit : first.isDigit = true :=
        Text.isDigit_of_mem_padded (hpadded ▸ List.mem_cons_self)
      exact ⟨first, rest, rfl, Text.isBlank_of_isDigit hdigit, fun hnot => absurd hyear hnot⟩
  · rw [yearText, if_neg hyear]
    refine ⟨_, _, rfl, ?_, fun _ => ?_⟩
    · split <;> rfl
    · split <;> rfl

/-- Month and day of the month are written with two digits. -/
theorem Date.length_padded (date : Date) :
    (padded 2 date.month).length = 2 ∧ (padded 2 date.day).length = 2 := by
  have hwidth {n : Nat} (hn : n < 100) : (padded 2 n).length = 2 :=
    Time.length_padded_of_lt (by decide) hn
  have hmonth := date.month_mem
  have hday := date.day_mem.2
  have hbounds := Calendar.daysInMonth_bounds (Calendar.isLeap date.year) date.month
  exact ⟨hwidth (by omega), hwidth (by omega)⟩

/-- A character stands where a pattern has it; the letter `d` stands for any digit. -/
def Time.StandsFor (place c : Char) : Prop := if place = 'd' then c.isDigit = true else c = place

/-- The text has four digits for the year, three for the milliseconds, and else two by two. -/
def Time.HasCanonicalShape (text : String) : Prop :=
  List.Forall₂ StandsFor "dddd-dd-ddTdd:dd:dd.dddZ".toList text.toList

/-- Digits stand for as many letters `d`. -/
theorem Time.standsFor_digits {digits : List Char} (h : ∀ c ∈ digits, c.isDigit = true) :
    List.Forall₂ StandsFor (List.replicate digits.length 'd') digits := by
  induction digits with
  | nil => exact .nil
  | cons c rest ih =>
    obtain ⟨hc, hrest⟩ := List.forall_mem_cons.mp h
    exact .cons hc (ih hrest)

/-- A number of fixed width and a mark stand for as many letters `d` and the mark. -/
theorem Time.standsFor_padded {width n : Nat} (hwidth : (padded width n).length = width)
    (mark : Char) (hmark : mark ≠ 'd') {places text : List Char}
    (h : List.Forall₂ StandsFor places text) :
    List.Forall₂ StandsFor (List.replicate width 'd' ++ mark :: places)
      (padded width n ++ mark :: text) := by
  have hdigits := standsFor_digits fun c (hc : c ∈ padded width n) => Text.isDigit_of_mem_padded hc
  rw [hwidth] at hdigits
  have hself : StandsFor mark mark := by rw [StandsFor, if_neg hmark]
  exact List.rel_append hdigits (.cons hself h)

namespace Instant

/-- An instant cut off to whole milliseconds; a leap second stays one. -/
def truncated (t : Instant) : Instant where
  seconds := t.seconds
  nanos := t.nanos / 1000000 * 1000000
  nanos_lt := by
    have := t.nanos_lt
    omega
  leap_second := by
    intro h
    exact t.leap_second (by omega)

/-- Instants are equal if their seconds and nanoseconds are. -/
theorem eq_iff {t t' : Instant} : t = t' ↔ t.seconds = t'.seconds ∧ t.nanos = t'.nanos := by
  cases t
  cases t'
  rw [mk.injEq]

/-- The year of an instant is written with four digits. -/
def InFourDigitYear (t : Instant) : Prop := 0 ≤ t.date.year ∧ t.date.year ≤ 9999

instance (t : Instant) : Decidable t.InFourDigitYear := inferInstanceAs (Decidable (_ ∧ _))

variable {t : Instant}

/-- The numbers of the time of day are in range. -/
theorem time_lt (t : Instant) :
    t.hour < 24 ∧ t.minute < 60 ∧ t.second ≤ 60 ∧ t.millisecond < 1000 := by
  have hnanos := t.nanos_lt
  simp only [hour, minute, second, millisecond, secondOfDay]
  omega

/-- The parts of the canonical text. -/
theorem text_eq_yearText (t : Instant) :
    t.text = Date.yearText t.date.year ++ '-' :: (padded 2 t.date.month ++ '-' ::
      (padded 2 t.date.day ++ 'T' :: (padded 2 t.hour ++ ':' :: (padded 2 t.minute ++ ':' ::
        (padded 2 t.second ++ '.' :: (padded 3 t.millisecond ++ ['Z'])))))) := by
  rw [text, Date.text]
  simp only [List.append_assoc, List.cons_append]

/-- The parts of the canonical text in a year of four digits. -/
theorem text_eq (h : t.InFourDigitYear) :
    t.text = padded 4 t.date.year.toNat ++ '-' :: (padded 2 t.date.month ++ '-' ::
      (padded 2 t.date.day ++ 'T' :: (padded 2 t.hour ++ ':' :: (padded 2 t.minute ++ ':' ::
        (padded 2 t.second ++ '.' :: (padded 3 t.millisecond ++ ['Z'])))))) := by
  have hyear : Date.yearText t.date.year = padded 4 t.date.year.toNat := if_pos h
  rw [text_eq_yearText, hyear]

/-- Each number of the canonical text but the year is written with its fixed width. -/
theorem length_padded_after_year (t : Instant) :
    (padded 2 t.date.month).length = 2 ∧ (padded 2 t.date.day).length = 2 ∧
      (padded 2 t.hour).length = 2 ∧ (padded 2 t.minute).length = 2 ∧
      (padded 2 t.second).length = 2 ∧ (padded 3 t.millisecond).length = 3 := by
  obtain ⟨hmonth, hday⟩ := t.date.length_padded
  have hwidth {n : Nat} (hn : n < 100) : (padded 2 n).length = 2 :=
    Time.length_padded_of_lt (by decide) hn
  obtain ⟨hhour, hminute, hsecond, hmillisecond⟩ := t.time_lt
  exact ⟨hmonth, hday, hwidth (by omega), hwidth (by omega), hwidth (by omega),
    Time.length_padded_of_lt (by decide) hmillisecond⟩

/-- In a year of four digits each number of the canonical text is written with its fixed width. -/
theorem length_padded (h : t.InFourDigitYear) :
    (padded 4 t.date.year.toNat).length = 4 ∧ (padded 2 t.date.month).length = 2 ∧
      (padded 2 t.date.day).length = 2 ∧ (padded 2 t.hour).length = 2 ∧
      (padded 2 t.minute).length = 2 ∧ (padded 2 t.second).length = 2 ∧
      (padded 3 t.millisecond).length = 3 := by
  have hyear : t.date.year.toNat < 10000 := by
    have hrange : 0 ≤ t.date.year ∧ t.date.year ≤ 9999 := h
    omega
  exact ⟨Time.length_padded_of_lt (by decide) hyear, t.length_padded_after_year⟩

/-- What is cut off does not show in the canonical text. -/
theorem canonical_truncated (t : Instant) : t.truncated.canonical = t.canonical := by
  have hsecond : t.truncated.second = t.second := by
    simp only [second, secondOfDay, truncated]
    omega
  have hmillisecond : t.truncated.millisecond = t.millisecond := by
    simp only [millisecond, truncated]
    omega
  rw [canonical, canonical, text, text, hsecond, hmillisecond]
  rfl

/-! ### Reading the canonical text -/

/-- The numbers of the canonical text of an instant. -/
def fields (t : Instant) : Time.Fields where
  year := t.date.year
  month := t.date.month
  day := t.date.day
  hour := t.hour
  minute := t.minute
  second := t.second
  nanos := 1000000 * t.millisecond

/-- The strict layout reads the numbers of a canonical text, and all of it. -/
theorem readParts_text (h : t.InFourDigitYear) :
    Time.readParts Time.zonedLayout {} t.text = some (t.fields, []) := by
  obtain ⟨hyear, hmonth, hday, hhour, hminute, hsecond, -⟩ := length_padded h
  have hmillisecond := t.time_lt.2.2.2
  have hcast : (t.date.year.toNat : Int) = t.date.year := Int.toNat_of_nonneg h.1
  rw [text_eq h, Time.zonedLayout, Time.strictDay, Time.strictTime]
  simp only [List.cons_append, List.nil_append]
  rw [Time.readParts_cons_of_some (Time.read_exactly_padded hyear _ _ _),
    Time.readParts_cons_of_some (Time.read_mark_cons (by decide) _ _),
    Time.readParts_cons_of_some (Time.read_exactly_padded hmonth _ _ _),
    Time.readParts_cons_of_some (Time.read_mark_cons (by decide) _ _),
    Time.readParts_cons_of_some (Time.read_exactly_padded hday _ _ _),
    Time.readParts_cons_of_some (Time.read_mark_cons (by decide) _ _),
    Time.readParts_cons_of_some (Time.read_exactly_padded hhour _ _ _),
    Time.readParts_cons_of_some (Time.read_mark_cons (by decide) _ _),
    Time.readParts_cons_of_some (Time.read_exactly_padded hminute _ _ _),
    Time.readParts_cons_of_some (Time.read_mark_cons (by decide) _ _),
    Time.readParts_cons_of_some (Time.read_exactly_padded hsecond _ _ _),
    Time.readParts_cons_of_some (Time.read_fraction_padded hmillisecond (by decide) _ _)]
  simp only [Time.readParts, Time.Part.read, Time.readZone, Time.Fields.set, hcast, fields]
  rfl

/-- The numbers of a canonical text are those of the instant cut off to the millisecond. -/
theorem toInstant?_fields (h : t.InFourDigitYear) : t.fields.toInstant? = some t.truncated := by
  have hyear : Time.firstYear ≤ t.fields.year ∧ t.fields.year ≤ Time.lastYear := by
    have hrange : 0 ≤ t.date.year ∧ t.date.year ≤ 9999 := h
    simp only [fields, Time.firstYear, Time.lastYear]
    omega
  have hdate : Date.ofFields? t.fields.year t.fields.month t.fields.day = some t.date :=
    Date.ofFields?_eq_some_iff.mpr ⟨rfl, rfl, rfl⟩
  obtain ⟨hhour, hminute, hsecond, hmillisecond⟩ := t.time_lt
  have htime : t.fields.TimeInRange := ⟨hhour, hminute, hsecond, by simp only [fields]; omega⟩
  have hinstant : t.fields.toInstant t.date htime = t.truncated := by
    have hnumber : t.date.dayNumber = t.seconds / 86400 := Date.dayNumber_ofDayNumber _
    have hleap := t.leap_second
    have hnanos := t.nanos_lt
    -- Only a leap second is shown as second 60, and its nanoseconds count on from the second 59.
    have hsixty : t.second = 60 ↔ 1000000000 ≤ t.nanos := by
      simp only [second, secondOfDay]
      omega
    refine eq_iff.mpr ⟨?_, ?_⟩
    · simp only [Time.Fields.toInstant, fields, truncated, hnumber, hour, minute, second,
        secondOfDay]
      omega
    · simp only [Time.Fields.toInstant, fields, truncated, hsixty, millisecond]
      split <;> omega
  rw [Time.Fields.toInstant?, if_pos hyear, hdate]
  simp only [dif_pos htime, hinstant]

/-! ### All canonical texts -/

/-- A canonical text begins with a digit or a sign and ends with the letter `Z`. -/
theorem exists_text_eq (t : Instant) :
    ∃ first inner, t.text = first :: (inner ++ ['Z']) ∧ Text.isBlank first = false ∧
      (¬ t.InFourDigitYear → first.isDigit = false) := by
  obtain ⟨first, rest, hyear, hblank, hdigit⟩ := Date.exists_yearText_eq t.date.year
  have htext : ∃ inner, t.text = first :: (inner ++ ['Z']) := by
    rw [text, Date.text, hyear]
    exact ⟨_, rfl⟩
  obtain ⟨inner, hinner⟩ := htext
  exact ⟨first, inner, hinner, hblank, hdigit⟩

/-- A canonical text is read by the strict layout or not at all. -/
theorem readTimestamp_canonical_eq (t : Instant) :
    Time.readTimestamp t.canonical = Time.readBy Time.zonedLayout t.text := by
  obtain ⟨first, inner, htext, hblank, -⟩ := t.exists_text_eq
  have htrim : Text.trim t.canonical.toList = t.text := by
    rw [canonical, String.toList_ofList, htext, Text.trim_eq_self hblank (by decide)]
  have hletter : 'Z' ∈ Text.trim t.canonical.toList := by
    rw [htrim, htext]
    simp
  rw [Time.readTimestamp_eq_readBy hletter, htrim]

/-- In a year of four digits, reading the canonical text cuts off what is below a millisecond. -/
theorem readTimestamp_canonical (h : t.InFourDigitYear) :
    Time.readTimestamp t.canonical = some t.truncated := by
  rw [readTimestamp_canonical_eq, Time.readBy, readParts_text h]
  exact toInstant?_fields h

/-- In any other year the canonical text is not read. -/
theorem readTimestamp_canonical_eq_none (h : ¬ t.InFourDigitYear) :
    Time.readTimestamp t.canonical = none := by
  obtain ⟨first, inner, htext, -, hdigit⟩ := t.exists_text_eq
  have hsign : Time.readExactly 4 t.text = none := by
    simp [Time.readExactly, htext, hdigit h]
  have hfirst : (Time.Part.exactly 4 .year).read {} t.text = none := by
    rw [Time.Part.read, hsign]
    rfl
  have hparts : Time.readParts Time.zonedLayout {} t.text = none :=
    Time.readParts_cons_of_none hfirst
  rw [readTimestamp_canonical_eq, Time.readBy, hparts]

/-- In a year of four digits the canonical text has its fixed shape. -/
theorem hasCanonicalShape (h : t.InFourDigitYear) : Time.HasCanonicalShape t.canonical := by
  obtain ⟨hyear, hmonth, hday, hhour, hminute, hsecond, hmillisecond⟩ := length_padded h
  have htext : t.canonical.toList = t.text := String.toList_ofList
  have hpattern : "dddd-dd-ddTdd:dd:dd.dddZ".toList =
      List.replicate 4 'd' ++ '-' :: (List.replicate 2 'd' ++ '-' :: (List.replicate 2 'd' ++
        'T' :: (List.replicate 2 'd' ++ ':' :: (List.replicate 2 'd' ++ ':' ::
          (List.replicate 2 'd' ++ '.' :: (List.replicate 3 'd' ++ ['Z'])))))) := rfl
  rw [Time.HasCanonicalShape, htext, text_eq h, hpattern]
  exact Time.standsFor_padded hyear '-' (by decide)
    (Time.standsFor_padded hmonth '-' (by decide)
      (Time.standsFor_padded hday 'T' (by decide)
        (Time.standsFor_padded hhour ':' (by decide)
          (Time.standsFor_padded hminute ':' (by decide)
            (Time.standsFor_padded hsecond '.' (by decide)
              (Time.standsFor_padded hmillisecond 'Z' (by decide) .nil))))))

end Instant

end FacetedSearch
