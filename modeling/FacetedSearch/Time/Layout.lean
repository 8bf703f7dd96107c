import FacetedSearch.Text.Blank
import FacetedSearch.Time.Instant

/-!
# Layouts of timestamps

A timestamp is read by a layout, a list of parts that are read one after the
other. Six layouts are tried in turn: the strict one with an offset from universal
time; day and time of day, with a letter or a blank between and with or without
a fraction; and the day alone. All but the first take one-digit numbers, signed years and
blanks before a number, and mean universal time.
-/

namespace FacetedSearch.Time

open Text (decimalValue isBlank skipBlank)

/-- The numbers of a timestamp, before it is known whether there is such an instant. -/
structure Fields where
  year : Int := 0
  month : Nat := 0
  day : Nat := 0
  hour : Nat := 0
  minute : Nat := 0
  second : Nat := 0
  nanos : Nat := 0
  /-- Minutes by which the time of day is ahead of universal time. -/
  offset : Int := 0
  deriving DecidableEq

/-- The first year that can be read. -/
def firstYear : Int := -262143

/-- The last year that can be read. -/
def lastYear : Int := 262142

/-- The numbers of a time of day lie in their ranges; second 60 is a leap second. -/
def Fields.TimeInRange (fields : Fields) : Prop :=
  fields.hour < 24 ∧ fields.minute < 60 ∧ fields.second ≤ 60 ∧ fields.nanos < 1000000000

instance (fields : Fields) : Decidable fields.TimeInRange := inferInstanceAs (Decidable (_ ∧ _))

/-- The instant of a day and of numbers that are in range. -/
def Fields.toInstant (fields : Fields) (date : Date) (h : fields.TimeInRange) : Instant where
  seconds := 86400 * date.dayNumber + 3600 * fields.hour + 60 * fields.minute +
    min fields.second 59 - 60 * fields.offset
  nanos := if fields.second = 60 then fields.nanos + 1000000000 else fields.nanos
  nanos_lt := by
    have := h.2.2.2
    split <;> omega
  leap_second := by
    have := h.2.2.2
    split <;> omega

/--
The instant that the numbers denote, if the day exists, the year can be read and the time is in
range.
-/
def Fields.toInstant? (fields : Fields) : Option Instant :=
  if firstYear ≤ fields.year ∧ fields.year ≤ lastYear then
    match Date.ofFields? fields.year fields.month fields.day with
    | some date => if h : fields.TimeInRange then some (fields.toInstant date h) else none
    | none => none
  else none

/-- The places for numbers without a sign. -/
inductive Slot where
  | year
  | month
  | day
  | hour
  | minute
  | second
  deriving DecidableEq, Repr

/-- Put a number into its place. -/
def Fields.set (fields : Fields) (slot : Slot) (n : Nat) : Fields :=
  match slot with
  | .year => { fields with year := n }
  | .month => { fields with month := n }
  | .day => { fields with day := n }
  | .hour => { fields with hour := n }
  | .minute => { fields with minute := n }
  | .second => { fields with second := n }

/-- A part of a layout. -/
inductive Part where
  /-- A number of exactly so many digits. -/
  | exactly (width : Nat) (slot : Slot)
  /-- Blanks or none, then a number of one or two digits. -/
  | number (slot : Slot)
  /-- Blanks or none, then one to four digits, or a sign and any number of digits. -/
  | signedYear
  /-- One of the given characters. -/
  | mark (allowed : List Char)
  /-- Blanks or none. -/
  | gap
  /-- Nothing, or a point and digits, of which the first nine count. -/
  | fraction
  /-- The letter for universal time, or a sign, hours and minutes. -/
  | zone
  deriving DecidableEq, Repr

/-- The digits at the start of a text, at most so many, and what follows them. -/
def takeDigits (limit : Nat) (text : List Char) : List Char × List Char :=
  let digits := (text.take limit).takeWhile Char.isDigit
  (digits, text.drop digits.length)

/-- A number of at least one and at most so many digits. -/
def readNumber (limit : Nat) (text : List Char) : Option (Nat × List Char) :=
  match takeDigits limit text with
  | ([], _) => none
  | (digits, rest) => some (decimalValue digits, rest)

/-- A number of exactly so many digits. -/
def readExactly (width : Nat) (text : List Char) : Option (Nat × List Char) :=
  let digits := text.take width
  if digits.length = width ∧ digits.all Char.isDigit then
    some (decimalValue digits, text.drop width)
  else none

/-- A year of one to four digits, or of a sign and any number of digits. -/
def readYear (text : List Char) : Option (Int × List Char) :=
  match text with
  | '-' :: rest => (readNumber rest.length rest).map fun (n, rest) => (-(n : Int), rest)
  | '+' :: rest => (readNumber rest.length rest).map fun (n, rest) => ((n : Int), rest)
  | _ => (readNumber 4 text).map fun (n, rest) => ((n : Int), rest)

/--
The nanoseconds of the digits after the point: the first nine, with zeros for those that are
missing.
-/
def nanosOfDigits (digits : List Char) : Nat :=
  decimalValue ((digits ++ List.replicate 9 '0').take 9)

/-- The nanoseconds of a fraction, zero if there is none. -/
def readFraction (text : List Char) : Option (Nat × List Char) :=
  match text with
  | '.' :: rest =>
    match takeDigits rest.length rest with
    | ([], _) => none
    | (digits, rest) => some (nanosOfDigits digits, rest)
  | _ => some (0, text)

/-- Hours and minutes of an offset, in minutes. -/
def readOffset (text : List Char) : Option (Nat × List Char) := do
  let (hours, rest) ← readExactly 2 text
  match rest with
  | ':' :: rest =>
    let (minutes, rest) ← readExactly 2 rest
    if hours < 24 ∧ minutes < 60 then some (60 * hours + minutes, rest) else none
  | _ => none

/-- An offset from universal time in minutes; the sign may be a hyphen or the minus sign U+2212. -/
def readZone (text : List Char) : Option (Int × List Char) :=
  match text with
  | 'Z' :: rest | 'z' :: rest => some (0, rest)
  | '+' :: rest => (readOffset rest).map fun (n, rest) => ((n : Int), rest)
  | '-' :: rest | '−' :: rest => (readOffset rest).map fun (n, rest) => (-(n : Int), rest)
  | _ => none

/-- Read one part of a layout: the numbers with what the part says, and the rest of the text. -/
def Part.read (part : Part) (fields : Fields) (text : List Char) : Option (Fields × List Char) :=
  match part with
  | .exactly width slot => (readExactly width text).map fun (n, rest) => (fields.set slot n, rest)
  | .number slot => (readNumber 2 (skipBlank text)).map fun (n, rest) => (fields.set slot n, rest)
  | .signedYear =>
    (readYear (skipBlank text)).map fun (n, rest) => ({ fields with year := n }, rest)
  | .mark allowed =>
    match text with
    | c :: rest => if c ∈ allowed then some (fields, rest) else none
    | [] => none
  | .gap => some (fields, skipBlank text)
  | .fraction => (readFraction text).map fun (n, rest) => ({ fields with nanos := n }, rest)
  | .zone => (readZone text).map fun (n, rest) => ({ fields with offset := n }, rest)

/-- Read the parts of a layout one after the other. -/
def readParts : List Part → Fields → List Char → Option (Fields × List Char)
  | [], fields, text => some (fields, text)
  | part :: parts, fields, text => do
    let (fields, rest) ← part.read fields text
    readParts parts fields rest

/-- Read a whole text by a layout. -/
def readBy (layout : List Part) (text : List Char) : Option Instant :=
  match readParts layout {} text with
  | some (fields, []) => fields.toInstant?
  | _ => none

/-- A day in four, two and two digits. -/
def strictDay : List Part :=
  [.exactly 4 .year, .mark ['-'], .exactly 2 .month, .mark ['-'], .exactly 2 .day]

/-- A time of day in digits by twos, perhaps with a fraction. -/
def strictTime : List Part :=
  [.exactly 2 .hour, .mark [':'], .exactly 2 .minute, .mark [':'], .exactly 2 .second, .fraction]

/-- The layout of a timestamp with its offset from universal time. -/
def zonedLayout : List Part := strictDay ++ [.mark ['T', 't', ' ']] ++ strictTime ++ [.zone]

/-- The layout of a day alone. -/
def dayLayout : List Part :=
  [.signedYear, .mark ['-'], .number .month, .mark ['-'], .number .day]

/-- The time of day, without a fraction. -/
def looseTime : List Part :=
  [.number .hour, .mark [':'], .number .minute, .mark [':'], .number .second]

/-- The layouts, in the order in which they are tried. -/
def layouts : List (List Part) :=
  [ zonedLayout
  , dayLayout ++ [.mark ['T']] ++ looseTime ++ [.fraction]
  , dayLayout ++ [.mark ['T']] ++ looseTime
  , dayLayout ++ [.gap] ++ looseTime ++ [.fraction]
  , dayLayout ++ [.gap] ++ looseTime
  , dayLayout ]

/-- The instant of a timestamp in any of the layouts, with blanks allowed around it. -/
def readTimestamp (text : String) : Option Instant :=
  layouts.findSome? fun layout => readBy layout (Text.trim text.toList)

end FacetedSearch.Time
