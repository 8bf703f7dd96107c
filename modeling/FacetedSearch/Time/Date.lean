import FacetedSearch.Text.Decimal

/-!
# Calendar days

Days of the Gregorian calendar, extended to all years before and after its
adoption; the year 0 precedes the year 1. A day has a number, counted from
1 January 1970, and `Date.ofDayNumber` finds the day of a number again.
-/

namespace FacetedSearch

namespace Calendar

/-- Whether a year has a 29 February. -/
def isLeap (year : Int) : Bool := year % 4 == 0 && (year % 100 != 0 || year % 400 == 0)

/-- The number of days of a year. -/
def daysInYear (leap : Bool) : Nat := if leap then 366 else 365

/-- The number of days of a month, counted from 1. -/
def daysInMonth (leap : Bool) (month : Nat) : Nat :=
  match month with
  | 2 => if leap then 29 else 28
  | 4 | 6 | 9 | 11 => 30
  | _ => 31

/-- The days of the year before the first of a month. -/
def daysBeforeMonth (leap : Bool) : Nat → Nat
  | 0 => 0
  | 1 => 0
  | month + 2 => daysBeforeMonth leap (month + 1) + daysInMonth leap (month + 1)

/-- The days from 1 January of the year 1 to 1 January of a year, negative before it. -/
def daysBeforeYear (year : Int) : Int :=
  365 * (year - 1) + (year - 1) / 4 - (year - 1) / 100 + (year - 1) / 400

/-- The days from 1 January of the year 1 to 1 January 1970. -/
def epochDay : Int := 719162

/--
The year of a day, counted from 1 January of the year 1. The calendar repeats
after 400 years; in these, all centuries but the last, and in a century all spans of
four years but possibly the last, are equally long.
-/
def yearOfDay (days : Int) : Int :=
  let inCycle := days % 146097
  let century := min (inCycle / 36524) 3
  let inCentury := inCycle - 36524 * century
  let inSpan := inCentury % 1461
  400 * (days / 146097) + 100 * century + 4 * (inCentury / 1461) + min (inSpan / 365) 3 + 1

/-- The month of a day of the year, counted from 0: as many months have begun. -/
def monthOfDay (leap : Bool) (dayOfYear : Nat) : Nat :=
  (List.range' 1 12).countP fun month => daysBeforeMonth leap month ≤ dayOfYear

/-- A year is as long as its number of days says. -/
theorem daysBeforeYear_succ (year : Int) :
    daysBeforeYear (year + 1) = daysBeforeYear year + daysInYear (isLeap year) := by
  simp only [daysBeforeYear, daysInYear, isLeap, Bool.and_eq_true, Bool.or_eq_true, beq_iff_eq,
    bne_iff_ne, ne_eq]
  split <;> omega

/--
The days before a year that is given by its cycle, century, span of four years and place in it.
-/
theorem daysBeforeYear_parts (cycle : Int) {century span place : Int}
    (hcentury : 0 ≤ century ∧ century ≤ 3) (hspan : 0 ≤ span ∧ span ≤ 24)
    (hplace : 0 ≤ place ∧ place ≤ 3) :
    daysBeforeYear (400 * cycle + 100 * century + 4 * span + place + 1) =
      146097 * cycle + 36524 * century + 1461 * span + 365 * place := by
  have h4 : (400 * cycle + 100 * century + 4 * span + place) / 4 =
      100 * cycle + 25 * century + span := by omega
  have h100 : (400 * cycle + 100 * century + 4 * span + place) / 100 = 4 * cycle + century := by
    omega
  have h400 : (400 * cycle + 100 * century + 4 * span + place) / 400 = cycle := by omega
  simp only [daysBeforeYear, Int.add_sub_cancel, h4, h100, h400]
  omega

/-- A day lies in its year. -/
theorem yearOfDay_bounds (days : Int) :
    daysBeforeYear (yearOfDay days) ≤ days ∧
      days < daysBeforeYear (yearOfDay days) + daysInYear (isLeap (yearOfDay days)) := by
  let century := min (days % 146097 / 36524) 3
  let inCentury := days % 146097 - 36524 * century
  let place := min (inCentury % 1461 / 365) 3
  have hyear : yearOfDay days =
      400 * (days / 146097) + 100 * century + 4 * (inCentury / 1461) + place + 1 := rfl
  have hcentury : 0 ≤ century ∧ century ≤ 3 := by omega
  have hin : 0 ≤ inCentury ∧ (century < 3 → inCentury < 36524) ∧ inCentury < 36525 := by omega
  have hplace : 0 ≤ place ∧ place ≤ 3 := by omega
  have hdays := daysBeforeYear_parts (days / 146097) hcentury
    (show 0 ≤ inCentury / 1461 ∧ inCentury / 1461 ≤ 24 by omega) hplace
  rw [hyear, hdays]
  refine ⟨by omega, ?_⟩
  by_cases hlast : place = 3
  · by_cases hfull : isLeap (400 * (days / 146097) + 100 * century + 4 * (inCentury / 1461) +
        place + 1) = true
    · rw [hfull]
      simp only [daysInYear, if_true]
      omega
    · have hshort : inCentury / 1461 = 24 ∧ century < 3 := by
        simp only [isLeap, hlast, Bool.and_eq_true, Bool.or_eq_true, beq_iff_eq, bne_iff_ne, ne_eq]
          at hfull
        omega
      rw [Bool.not_eq_true _ |>.mp hfull]
      simp only [daysInYear, Bool.false_eq_true, if_false]
      omega
  · have hlong : (365 : Int) ≤ daysInYear (isLeap (400 * (days / 146097) + 100 * century +
        4 * (inCentury / 1461) + place + 1)) := by
      unfold daysInYear
      split <;> decide
    omega

/-- The days before a month are those before the month that precedes it and the days of that. -/
theorem daysBeforeMonth_succ (leap : Bool) {month : Nat} (h : 1 ≤ month) :
    daysBeforeMonth leap (month + 1) = daysBeforeMonth leap month + daysInMonth leap month := by
  obtain ⟨m, rfl⟩ : ∃ m, month = m + 1 := ⟨month - 1, by omega⟩
  rfl

/-- A month lies before every later month. -/
theorem daysBeforeMonth_add_le (leap : Bool) {month month' : Nat} (hfirst : 1 ≤ month)
    (h : month < month') :
    daysBeforeMonth leap month + daysInMonth leap month ≤ daysBeforeMonth leap month' := by
  induction h with
  | refl => exact Nat.le_of_eq (daysBeforeMonth_succ leap hfirst).symm
  | @step later hlater ih =>
    have hlater' : month < later := hlater
    rw [daysBeforeMonth_succ leap (by omega)]
    omega

/-- The twelve months make up the year. -/
theorem daysBeforeMonth_thirteen (leap : Bool) : daysBeforeMonth leap 13 = daysInYear leap := by
  cases leap <;> rfl

/-- The months that have begun on a day are the first ones, so the next has not. -/
theorem countP_begun_bounds (leap : Bool) (day months : Nat) :
    let begun := (List.range' 1 months).countP fun month => daysBeforeMonth leap month ≤ day
    begun ≤ months ∧ daysBeforeMonth leap begun ≤ day ∧
      (begun < months → day < daysBeforeMonth leap (begun + 1)) := by
  intro begun
  induction months with
  | zero => exact ⟨Nat.le_refl _, Nat.zero_le _, fun h => absurd h (Nat.lt_irrefl _)⟩
  | succ months ih =>
    let before := (List.range' 1 months).countP fun month => daysBeforeMonth leap month ≤ day
    obtain ⟨hle, hbegun, hnext⟩ : before ≤ months ∧ daysBeforeMonth leap before ≤ day ∧
      (before < months → day < daysBeforeMonth leap (before + 1)) := ih
    have hstep : begun =
        before + if daysBeforeMonth leap (months + 1) ≤ day then 1 else 0 := by
      simp only [begun, before, List.range'_1_concat, List.countP_append, List.countP_singleton,
        decide_eq_true_eq, Nat.add_comm 1 months]
    by_cases hlast : daysBeforeMonth leap (months + 1) ≤ day
    · -- All earlier months have begun too.
      have hall : before = months := by
        refine Nat.le_antisymm hle (Nat.le_of_not_lt fun hless => ?_)
        have hlater := daysBeforeMonth_add_le leap (Nat.le_add_left 1 before)
          (Nat.add_lt_add_right hless 1)
        have hday := hnext hless
        omega
      rw [if_pos hlast, hall] at hstep
      rw [hstep]
      exact ⟨Nat.le_refl _, hlast, fun h => absurd h (Nat.lt_irrefl _)⟩
    · rw [if_neg hlast, Nat.add_zero] at hstep
      rw [hstep]
      refine ⟨Nat.le_succ_of_le hle, hbegun, fun _ => ?_⟩
      rcases Nat.lt_or_eq_of_le hle with hless | hall
      · exact hnext hless
      · rw [hall]
        exact Nat.lt_of_not_le hlast

/-- A day lies in its month. -/
theorem monthOfDay_bounds (leap : Bool) (dayOfYear : Nat) (h : dayOfYear < daysInYear leap) :
    (1 ≤ monthOfDay leap dayOfYear ∧ monthOfDay leap dayOfYear ≤ 12) ∧
      daysBeforeMonth leap (monthOfDay leap dayOfYear) ≤ dayOfYear ∧
      dayOfYear < daysBeforeMonth leap (monthOfDay leap dayOfYear) +
        daysInMonth leap (monthOfDay leap dayOfYear) := by
  obtain ⟨hle, hbegun, hnext⟩ : monthOfDay leap dayOfYear ≤ 12 ∧
      daysBeforeMonth leap (monthOfDay leap dayOfYear) ≤ dayOfYear ∧
      (monthOfDay leap dayOfYear < 12 →
        dayOfYear < daysBeforeMonth leap (monthOfDay leap dayOfYear + 1)) :=
    countP_begun_bounds leap dayOfYear 12
  have hfirst : 1 ≤ monthOfDay leap dayOfYear := by
    refine Nat.pos_of_ne_zero fun hzero => ?_
    rw [hzero] at hnext
    exact absurd (hnext (by decide)) (Nat.not_lt_zero _)
  refine ⟨⟨hfirst, hle⟩, hbegun, ?_⟩
  rw [← daysBeforeMonth_succ leap hfirst]
  rcases Nat.lt_or_eq_of_le hle with hless | htwelve
  · exact hnext hless
  · rw [htwelve, daysBeforeMonth_thirteen]
    exact h

end Calendar

open Calendar

/-- A day of the calendar. -/
structure Date where
  year : Int
  month : Nat
  day : Nat
  /-- There are twelve months. -/
  month_mem : 1 ≤ month ∧ month ≤ 12
  /-- The month has the day. -/
  day_mem : 1 ≤ day ∧ day ≤ daysInMonth (isLeap year) month
  deriving DecidableEq

namespace Date

/-- The day with the given year, month and day of the month, if the calendar has it. -/
def ofFields? (year : Int) (month day : Nat) : Option Date :=
  if hmonth : 1 ≤ month ∧ month ≤ 12 then
    if hday : 1 ≤ day ∧ day ≤ daysInMonth (isLeap year) month then
      some ⟨year, month, day, hmonth, hday⟩
    else none
  else none

/-- The number of a day, counted from 1 January 1970 and negative before it. -/
def dayNumber (date : Date) : Int :=
  daysBeforeYear date.year + daysBeforeMonth (isLeap date.year) date.month + (date.day - 1) -
    epochDay

/-- The place of a day in its year is less than the length of the year. -/
theorem dayOfYear_lt (days : Int) :
    (days - daysBeforeYear (yearOfDay days)).toNat < daysInYear (isLeap (yearOfDay days)) := by
  have h := yearOfDay_bounds days
  omega

/-- The day of a year with the given place in it, counted from 0. -/
def ofDayOfYear (year : Int) (dayOfYear : Nat) (h : dayOfYear < daysInYear (isLeap year)) : Date :=
  have bounds := monthOfDay_bounds (isLeap year) dayOfYear h
  { year
    month := monthOfDay (isLeap year) dayOfYear
    day := dayOfYear - daysBeforeMonth (isLeap year) (monthOfDay (isLeap year) dayOfYear) + 1
    month_mem := bounds.1
    day_mem := by omega }

/-- The day with the given number, counted from 1 January 1970. -/
def ofDayNumber (number : Int) : Date :=
  ofDayOfYear (yearOfDay (number + epochDay))
    (number + epochDay - daysBeforeYear (yearOfDay (number + epochDay))).toNat
    (dayOfYear_lt (number + epochDay))

/-- The day with a number has that number. -/
@[simp] theorem dayNumber_ofDayNumber (number : Int) : (ofDayNumber number).dayNumber = number := by
  have hyear := yearOfDay_bounds (number + epochDay)
  have hmonth := monthOfDay_bounds _ _ (dayOfYear_lt (number + epochDay))
  simp only [dayNumber, ofDayNumber, ofDayOfYear]
  omega

/--
A year is written with four digits from 0 to 9999, and otherwise with a sign and at least four
digits.
-/
def yearText (year : Int) : List Char :=
  if 0 ≤ year ∧ year ≤ 9999 then Text.padded 4 year.toNat
  else (if year < 0 then '-' else '+') :: Text.padded 4 year.natAbs

/-- A day is written as year, month and day of the month with hyphens between. -/
def text (date : Date) : List Char :=
  yearText date.year ++ '-' :: Text.padded 2 date.month ++ '-' :: Text.padded 2 date.day

end Date

end FacetedSearch
