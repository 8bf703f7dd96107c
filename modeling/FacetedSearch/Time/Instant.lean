import FacetedSearch.Time.Date

/-!
# Instants

An instant of universal time: whole seconds since the start of 1970 and
nanoseconds. A leap second shares its count of seconds with the second before it,
the last of a minute, and has a nanosecond count of 10⁹ or more. The canonical text
shows an instant to the millisecond.
-/

namespace FacetedSearch

/-- An instant of universal time. -/
structure Instant where
  /-- Seconds since 1 January 1970, negative before it; a leap second is not counted. -/
  seconds : Int
  /-- Nanoseconds since the start of the second; 10⁹ and more lie in a leap second after it. -/
  nanos : Nat
  nanos_lt : nanos < 2000000000
  /-- A leap second follows the last second of a minute. -/
  leap_second : 1000000000 ≤ nanos → seconds % 60 = 59
  deriving DecidableEq

namespace Instant

/-- The start of a day. -/
def ofDay (date : Date) : Instant where
  seconds := 86400 * date.dayNumber
  nanos := 0
  nanos_lt := by decide
  leap_second := fun h => absurd h (by decide)

/-- The day of an instant. -/
def date (t : Instant) : Date := Date.ofDayNumber (t.seconds / 86400)

/-- The seconds since the start of the day, a leap second not counted. -/
def secondOfDay (t : Instant) : Nat := (t.seconds % 86400).toNat

/-- The hour of the day, from 0 to 23. -/
def hour (t : Instant) : Nat := t.secondOfDay / 3600

/-- The minute of the hour, from 0 to 59. -/
def minute (t : Instant) : Nat := t.secondOfDay / 60 % 60

/-- The second of the minute, 60 in a leap second. -/
def second (t : Instant) : Nat := t.secondOfDay % 60 + t.nanos / 1000000000

/-- The whole milliseconds since the start of the second. -/
def millisecond (t : Instant) : Nat := t.nanos % 1000000000 / 1000000

/--
The day, then the letter `T`, the time of day to the millisecond, cut off and not rounded, and
the letter `Z`.
-/
def text (t : Instant) : List Char :=
  t.date.text ++ 'T' :: Text.padded 2 t.hour ++ ':' :: Text.padded 2 t.minute ++
    ':' :: Text.padded 2 t.second ++ '.' :: Text.padded 3 t.millisecond ++ ['Z']

/-- The canonical text of an instant. -/
def canonical (t : Instant) : String := String.ofList t.text

end Instant

end FacetedSearch
