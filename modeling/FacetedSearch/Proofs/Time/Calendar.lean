import FacetedSearch.Time.Date
import Mathlib.Logic.Function.Iterate

/-!
# Counting days

The number of a day counts the days from 1 January 1970: the day after a day has the next
number, so the numbers of two days differ by as many steps as lead from one to the other. Days
have their numbers in the order of year, month and day of the month.
-/

namespace FacetedSearch

namespace Calendar

/-- A month has at least 28 and at most 31 days. -/
theorem daysInMonth_bounds (leap : Bool) (month : Nat) :
    28 ≤ daysInMonth leap month ∧ daysInMonth leap month ≤ 31 := by
  unfold daysInMonth
  repeat' split
  all_goals decide

/-- The days before a later year are more. -/
theorem daysBeforeYear_mono {year year' : Int} (h : year ≤ year') :
    daysBeforeYear year ≤ daysBeforeYear year' := by
  simp only [daysBeforeYear]
  omega

end Calendar

open Calendar

namespace Date

/-- The first of January of 1970, from which days are counted. -/
def epoch : Date := ⟨1970, 1, 1, by decide, by decide⟩

/-- The day after: in the same month, or the first of the next month or of the next year. -/
def next (date : Date) : Date :=
  if hday : date.day < daysInMonth (isLeap date.year) date.month then
    { date with
      day := date.day + 1
      day_mem := ⟨by omega, hday⟩ }
  else if hmonth : date.month < 12 then
    { year := date.year
      month := date.month + 1
      day := 1
      month_mem := by omega
      day_mem := ⟨Nat.le_refl 1, Nat.le_trans (by decide) (daysInMonth_bounds _ _).1⟩ }
  else
    { year := date.year + 1
      month := 1
      day := 1
      month_mem := by decide
      day_mem := ⟨Nat.le_refl 1, Nat.le_trans (by decide) (daysInMonth_bounds _ _).1⟩ }

/--
One day comes so many days after another; if the number is negative, it is the other that
comes after it.
-/
def DaysUntil (first second : Date) (days : Int) : Prop :=
  next^[days.toNat] first = next^[(-days).toNat] second

/-- An earlier year, or an earlier month or day in the same. -/
def Less (a b : Date) : Prop :=
  a.year < b.year ∨
    a.year = b.year ∧ (a.month < b.month ∨ a.month = b.month ∧ a.day < b.day)

/-- The calendar has a day with some fields exactly if there is a date with them. -/
theorem ofFields?_eq_some_iff {year : Int} {month day : Nat} {date : Date} :
    ofFields? year month day = some date ↔
      date.year = year ∧ date.month = month ∧ date.day = day := by
  constructor
  · intro h
    unfold ofFields? at h
    split at h
    · split at h
      · obtain rfl := Option.some.inj h
        exact ⟨rfl, rfl, rfl⟩
      · simp at h
    · simp at h
  · rintro ⟨rfl, rfl, rfl⟩
    rw [ofFields?, dif_pos date.month_mem, dif_pos date.day_mem]

/-- A day lies in its year. -/
theorem dayOfYear_lt_daysInYear (date : Date) :
    daysBeforeMonth (isLeap date.year) date.month + (date.day - 1) <
      daysInYear (isLeap date.year) := by
  have hmonth := date.month_mem
  have hday := date.day_mem
  have hle := daysBeforeMonth_add_le (isLeap date.year) hmonth.1
    (show date.month < 13 by omega)
  rw [daysBeforeMonth_thirteen] at hle
  omega

/-- Earlier days have lower numbers. -/
theorem dayNumber_lt_of_less {a b : Date} (h : a.Less b) : a.dayNumber < b.dayNumber := by
  have haday := a.day_mem
  have hbday := b.day_mem
  simp only [dayNumber]
  rcases h with hyear | ⟨hyear, hmonth | ⟨hmonth, hday⟩⟩
  · have hinyear := a.dayOfYear_lt_daysInYear
    have hbefore := daysBeforeYear_mono (show a.year + 1 ≤ b.year by omega)
    rw [daysBeforeYear_succ] at hbefore
    omega
  · have hbefore := daysBeforeMonth_add_le (isLeap a.year) a.month_mem.1 hmonth
    rw [← hyear]
    omega
  · rw [← hyear, ← hmonth]
    omega

/-- Days are equal if their years, months and days of the month are. -/
theorem eq_iff {a b : Date} : a = b ↔ a.year = b.year ∧ a.month = b.month ∧ a.day = b.day := by
  cases a
  cases b
  rw [mk.injEq]

/-- Of two different days one is earlier. -/
theorem less_or_eq_or_less (a b : Date) : a.Less b ∨ a = b ∨ b.Less a := by
  rw [eq_iff]
  simp only [Less]
  omega

/-- The order of the days is that of their numbers. -/
theorem less_iff_dayNumber_lt {a b : Date} : a.Less b ↔ a.dayNumber < b.dayNumber := by
  refine ⟨dayNumber_lt_of_less, fun h => ?_⟩
  rcases less_or_eq_or_less a b with hless | rfl | hless
  · exact hless
  · exact absurd h (Int.lt_irrefl _)
  · have hlt := dayNumber_lt_of_less hless
    omega

/-- Days with the same number are the same. -/
theorem dayNumber_inj {a b : Date} : a.dayNumber = b.dayNumber ↔ a = b := by
  refine ⟨fun h => ?_, fun h => congrArg dayNumber h⟩
  rcases less_or_eq_or_less a b with hless | heq | hless
  · have hlt := dayNumber_lt_of_less hless
    omega
  · exact heq
  · have hlt := dayNumber_lt_of_less hless
    omega

/-- The day after a day has the next number. -/
theorem dayNumber_next (date : Date) : date.next.dayNumber = date.dayNumber + 1 := by
  have hmonth := date.month_mem
  have hday := date.day_mem
  rw [next]
  split
  · simp only [dayNumber]
    omega
  · have hlast : date.day = daysInMonth (isLeap date.year) date.month := by omega
    split
    · simp only [dayNumber, daysBeforeMonth_succ _ hmonth.1]
      omega
    · have hdecember : date.month = 12 := by omega
      have hyear := daysBeforeMonth_thirteen (isLeap date.year)
      rw [daysBeforeMonth_succ _ (by decide)] at hyear
      have hfirst : daysBeforeMonth (isLeap (date.year + 1)) 1 = 0 := rfl
      rw [hdecember] at hlast
      simp only [dayNumber, daysBeforeYear_succ, hfirst, hdecember]
      omega

theorem dayNumber_iterate_next (days : Nat) (date : Date) :
    (next^[days] date).dayNumber = date.dayNumber + days := by
  induction days with
  | zero => simp
  | succ days ih =>
    rw [Function.iterate_succ_apply', dayNumber_next, ih]
    omega

/-- The steps from one day to another are the difference of their numbers. -/
theorem daysUntil_iff {first second : Date} {days : Int} :
    DaysUntil first second days ↔ second.dayNumber = first.dayNumber + days := by
  rw [DaysUntil, ← dayNumber_inj, dayNumber_iterate_next, dayNumber_iterate_next]
  omega

/-- The number of a day counts the days from 1 January 1970. -/
theorem epoch_daysUntil_iff {date : Date} {days : Int} :
    DaysUntil epoch date days ↔ days = date.dayNumber := by
  have hepoch : epoch.dayNumber = 0 := by decide
  rw [daysUntil_iff, hepoch]
  omega

end Date

end FacetedSearch
