import FacetedSearch.Time.Layout

/-!
# Written timestamps

The documented ways to write a timestamp, as they stand in a text: a day in four, two
and two digits, a time of day by twos and perhaps a fraction, and perhaps an offset
from universal time. Only the digits are given, so the calendar need not have the
day and the clock need not show the time.
-/

namespace FacetedSearch.Time

open Text (decimalValue)

/-- A number written with a fixed number of decimal digits. -/
structure Numeral (width : Nat) where
  digits : List Char
  length_digits : digits.length = width
  isDigit_of_mem : ∀ c ∈ digits, c.isDigit = true

/-- The number that is written. -/
def Numeral.value {width : Nat} (n : Numeral width) : Nat := decimalValue n.digits

/-- A day written as `dddd-dd-dd`. -/
structure WrittenDay where
  year : Numeral 4
  month : Numeral 2
  day : Numeral 2

/-- The digits of a day with hyphens between. -/
def WrittenDay.text (day : WrittenDay) : List Char :=
  day.year.digits ++ '-' :: (day.month.digits ++ '-' :: day.day.digits)

/-- The calendar has the day, and it is this one. -/
def WrittenDay.Names (day : WrittenDay) (date : Date) : Prop :=
  date.year = day.year.value ∧ date.month = day.month.value ∧ date.day = day.day.value

/-- A time of day written as `dd:dd:dd`, perhaps with a fraction. -/
structure WrittenTime where
  hour : Numeral 2
  minute : Numeral 2
  second : Numeral 2
  /-- The digits after the point; without digits there is no point. -/
  fraction : List Char
  isDigit_of_mem : ∀ c ∈ fraction, c.isDigit = true

namespace WrittenTime

/-- The digits of a time of day with colons between. -/
def clock (time : WrittenTime) : List Char :=
  time.hour.digits ++ ':' :: (time.minute.digits ++ ':' :: time.second.digits)

/-- The point and the digits after it. -/
def fractionText (time : WrittenTime) : List Char :=
  match time.fraction with
  | [] => []
  | digits => '.' :: digits

/-- The time of day with its fraction. -/
def text (time : WrittenTime) : List Char := time.clock ++ time.fractionText

/-- The nanoseconds of a fraction: its first nine digits, with zeros for those that are missing. -/
def nanos (time : WrittenTime) : Nat := decimalValue ((time.fraction.take 9).rightpad 9 '0')

/-- The clock shows the time; second 60 is a leap second. -/
def InRange (time : WrittenTime) : Prop :=
  time.hour.value ≤ 23 ∧ time.minute.value ≤ 59 ∧ time.second.value ≤ 60

end WrittenTime

/-- An offset from universal time, as it is written. -/
inductive WrittenZone where
  /-- The letter for universal time. -/
  | universal (letter : Char) (isLetter : letter = 'Z' ∨ letter = 'z')
  /-- A plus sign, hours and minutes. -/
  | ahead (hours minutes : Numeral 2) (inRange : hours.value ≤ 23 ∧ minutes.value ≤ 59)
  /-- A hyphen or the minus sign U+2212, hours and minutes. -/
  | behind (sign : Char) (isSign : sign = '-' ∨ sign = '−') (hours minutes : Numeral 2)
    (inRange : hours.value ≤ 23 ∧ minutes.value ≤ 59)

namespace WrittenZone

/-- The characters of an offset. -/
def text : WrittenZone → List Char
  | .universal letter _ => [letter]
  | .ahead hours minutes _ => '+' :: (hours.digits ++ ':' :: minutes.digits)
  | .behind sign _ hours minutes _ => sign :: (hours.digits ++ ':' :: minutes.digits)

/-- The seconds by which the time of day is ahead of universal time. -/
def seconds : WrittenZone → Int
  | .universal _ _ => 0
  | .ahead hours minutes _ => 3600 * hours.value + 60 * minutes.value
  | .behind _ _ hours minutes _ => -(3600 * hours.value + 60 * minutes.value)

end WrittenZone

/-! ### Spellings of one moment -/

/-- The number 0 in two digits. -/
def Numeral.zero : Numeral 2 := ⟨['0', '0'], rfl, List.all_eq_true.mp rfl⟩

/-- The start of a day. -/
def WrittenTime.midnight : WrittenTime := ⟨.zero, .zero, .zero, [], by simp⟩

/-- The texts that name a day and a time of day in universal time. -/
inductive UniversalText (day : WrittenDay) : WrittenTime → List Char → Prop where
  | letter (time : WrittenTime) : UniversalText day time (day.text ++ 'T' :: time.text)
  | space (time : WrittenTime) : UniversalText day time (day.text ++ ' ' :: time.text)
  | letterZone (time : WrittenTime) :
      UniversalText day time (day.text ++ 'T' :: (time.text ++ ['Z']))
  | spaceZone (time : WrittenTime) :
      UniversalText day time (day.text ++ ' ' :: (time.text ++ ['Z']))
  | noOffset (time : WrittenTime) :
      UniversalText day time (day.text ++ 'T' :: (time.text ++ ['+', '0', '0', ':', '0', '0']))
  /-- A day alone stands for its start. -/
  | alone : UniversalText day .midnight day.text

/-- A text names a day and a time of day in universal time, with blanks around it or not. -/
def Spells (text : String) (day : WrittenDay) (time : WrittenTime) : Prop :=
  ∃ before inner after, UniversalText day time inner ∧
    (∀ c ∈ before, Text.isBlank c = true) ∧ (∀ c ∈ after, Text.isBlank c = true) ∧
    text = String.ofList (before ++ inner ++ after)

end FacetedSearch.Time
