import FacetedSearch.Text.Blank
import FacetedSearch.Time.Written

/-!
# Loosely written timestamps

The texts that the layouts without an offset read: numbers may have fewer digits than
documented and blanks before them, a year may have a sign and then any number of digits, and
a time of day may follow its day with no separator at all. A text in a documented form is
told apart from these by its digits and its separator.
-/

namespace FacetedSearch.Time

open Text (decimalValue isBlank)

/-- A number of one or two digits, with blanks before it or not. -/
structure LooseNumber where
  blanks : List Char
  digits : List Char
  isBlank_of_mem : ∀ c ∈ blanks, isBlank c = true
  isDigit_of_mem : ∀ c ∈ digits, c.isDigit = true
  length_digits : 1 ≤ digits.length ∧ digits.length ≤ 2

namespace LooseNumber

/-- The blanks and the digits. -/
def text (n : LooseNumber) : List Char := n.blanks ++ n.digits

/-- The number that is written. -/
def value (n : LooseNumber) : Nat := decimalValue n.digits

/-- What may follow a number so that it ends there: a number of one digit ends before no digit. -/
def EndsBefore (n : LooseNumber) (rest : List Char) : Prop :=
  n.digits.length = 2 ∨ ∀ c ∈ rest.head?, c.isDigit = false

end LooseNumber

/-- A year of one to four digits, or of a sign and any number of digits. -/
inductive LooseYear where
  | unsigned (digits : List Char) (isDigit_of_mem : ∀ c ∈ digits, c.isDigit = true)
    (length_digits : 1 ≤ digits.length ∧ digits.length ≤ 4)
  | signed (negative : Bool) (digits : List Char)
    (isDigit_of_mem : ∀ c ∈ digits, c.isDigit = true) (ne_nil : digits ≠ [])

namespace LooseYear

/-- The characters of a year. -/
def text : LooseYear → List Char
  | .unsigned digits _ _ => digits
  | .signed negative digits _ _ => (if negative then '-' else '+') :: digits

/-- The year that is written. -/
def value : LooseYear → Int
  | .unsigned digits _ _ => decimalValue digits
  | .signed negative digits _ _ => if negative then -decimalValue digits else decimalValue digits

/-- What may follow a year so that it ends there: without a sign no fifth digit is read. -/
def EndsBefore (year : LooseYear) (rest : List Char) : Prop :=
  match year with
  | .unsigned digits _ _ => digits.length = 4 ∨ ∀ c ∈ rest.head?, c.isDigit = false
  | .signed _ _ _ _ => ∀ c ∈ rest.head?, c.isDigit = false

end LooseYear

/-- A day whose numbers are loosely written. -/
structure LooseDay where
  year : LooseYear
  month : LooseNumber
  day : LooseNumber

namespace LooseDay

/-- Year, month and day of the month with hyphens between. -/
def text (day : LooseDay) : List Char :=
  day.year.text ++ '-' :: (day.month.text ++ '-' :: day.day.text)

/-- The calendar has the day, and it is this one. -/
def Names (day : LooseDay) (date : Date) : Prop :=
  date.year = day.year.value ∧ date.month = day.month.value ∧ date.day = day.day.value

/-- The calendar has the day, in a year that can be read. -/
def Exists (day : LooseDay) : Prop :=
  (firstYear ≤ day.year.value ∧ day.year.value ≤ lastYear) ∧ ∃ date, day.Names date

end LooseDay

/-- A point and the digits after it, or nothing without digits. -/
def pointed : List Char → List Char
  | [] => []
  | digits => '.' :: digits

theorem pointed_of_ne_nil {digits : List Char} (h : digits ≠ []) :
    pointed digits = '.' :: digits := by
  cases digits with
  | nil => exact absurd rfl h
  | cons c rest => rfl

/-- A time of day whose numbers are loosely written, perhaps with a fraction. -/
structure LooseTime where
  hour : LooseNumber
  minute : LooseNumber
  second : LooseNumber
  /-- The digits after the point; without digits there is no point. -/
  fraction : List Char
  isDigit_of_mem : ∀ c ∈ fraction, c.isDigit = true

namespace LooseTime

/-- Hours, minutes and seconds with colons between. -/
def clock (time : LooseTime) : List Char :=
  time.hour.text ++ ':' :: (time.minute.text ++ ':' :: time.second.text)

/-- The time of day with its fraction. -/
def text (time : LooseTime) : List Char := time.clock ++ pointed time.fraction

/-- The clock shows the time; second 60 is a leap second. -/
def InRange (time : LooseTime) : Prop :=
  time.hour.value ≤ 23 ∧ time.minute.value ≤ 59 ∧ time.second.value ≤ 60

end LooseTime

/-! ### Written timestamps as loose ones -/

/-- A number of two digits is one that is loosely written. -/
def Numeral.loose (n : Numeral 2) : LooseNumber where
  blanks := []
  digits := n.digits
  isBlank_of_mem := by simp
  isDigit_of_mem := n.isDigit_of_mem
  length_digits := by simp [n.length_digits]

/-- A year of four digits is one without a sign. -/
def Numeral.looseYear (n : Numeral 4) : LooseYear :=
  .unsigned n.digits n.isDigit_of_mem (by simp [n.length_digits])

/-- A day written as documented is loosely written. -/
def WrittenDay.loose (day : WrittenDay) : LooseDay where
  year := day.year.looseYear
  month := day.month.loose
  day := day.day.loose

/-- A time of day with blanks before it or not. -/
def WrittenTime.loose (time : WrittenTime) (blanks : List Char)
    (hblanks : ∀ c ∈ blanks, isBlank c = true) : LooseTime where
  hour := { time.hour.loose with blanks := blanks, isBlank_of_mem := hblanks }
  minute := time.minute.loose
  second := time.second.loose
  fraction := time.fraction
  isDigit_of_mem := time.isDigit_of_mem

/-! ### The texts of instants -/

/-- A day and a time of day with an offset, of which the calendar and the clock know both. -/
inductive IsZoned : List Char → Prop where
  | intro {day : WrittenDay} {separator : Char} {time : WrittenTime} (zone : WrittenZone)
    (hseparator : separator = 'T' ∨ separator = 't' ∨ separator = ' ')
    (hday : ∃ date, day.Names date) (htime : time.InRange) :
      IsZoned (day.text ++ separator :: (time.text ++ zone.text))

/-- The documented forms of a day, or of a day and a time of day, that there are. -/
inductive IsDocumented : List Char → Prop where
  | zoned {text : List Char} (h : IsZoned text) : IsDocumented text
  /-- Without an offset, universal time is meant. -/
  | timed {day : WrittenDay} {separator : Char} {time : WrittenTime}
    (hseparator : separator = 'T' ∨ separator = ' ') (hday : ∃ date, day.Names date)
    (htime : time.InRange) : IsDocumented (day.text ++ separator :: time.text)
  | day {day : WrittenDay} (hday : ∃ date, day.Names date) : IsDocumented day.text

/-- The loose forms of a day, or of a day and a time of day, that there are. -/
inductive IsLoose : List Char → Prop where
  | day {day : LooseDay} (hday : day.Exists) : IsLoose day.text
  | letter {day : LooseDay} {time : LooseTime} (hday : day.Exists) (htime : time.InRange) :
      IsLoose (day.text ++ 'T' :: time.text)
  /-- Blanks set the time apart, or the second digit of the day ends it. -/
  | apart {day : LooseDay} {time : LooseTime} (hday : day.Exists) (htime : time.InRange)
    (hends : day.day.digits.length = 2 ∨ time.hour.blanks ≠ []) :
      IsLoose (day.text ++ time.text)

end FacetedSearch.Time
