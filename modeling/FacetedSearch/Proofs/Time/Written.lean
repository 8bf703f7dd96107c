import FacetedSearch.Proofs.Time.Parts

/-!
# Reading written timestamps

What the layouts read in a written day, time of day and offset, block by block. The
strict and the loose layouts read the same numbers, so a timestamp that is read by several
layouts has one meaning, the instant of its numbers if there is one.
-/

namespace FacetedSearch.Time

open Text (decimalValue isBlank skipBlank)

namespace Numeral

variable {width : Nat}

theorem value_lt (n : Numeral width) : n.value < Nat.pow 10 width := by
  have hlt := Text.decimalValue_lt n.isDigit_of_mem
  rwa [n.length_digits] at hlt

theorem isBlank_of_mem (n : Numeral width) {c : Char} (h : c ∈ n.digits) : isBlank c = false :=
  Text.isBlank_of_isDigit (n.isDigit_of_mem c h)

/-- A number of some width begins with a digit. -/
theorem exists_digits_eq (n : Numeral (width + 1)) :
    ∃ first rest, n.digits = first :: rest ∧ first.isDigit = true := by
  obtain ⟨first, rest, heq⟩ := List.exists_cons_of_length_eq_add_one n.length_digits
  exact ⟨first, rest, heq, n.isDigit_of_mem first (heq ▸ List.mem_cons_self)⟩

theorem skipBlank_digits_append (n : Numeral (width + 1)) (rest : List Char) :
    skipBlank (n.digits ++ rest) = n.digits ++ rest := by
  obtain ⟨first, others, heq, hfirst⟩ := n.exists_digits_eq
  apply Text.skipBlank_eq_self
  rw [heq]
  simpa using Text.isBlank_of_isDigit hfirst

theorem read_exactly (n : Numeral width) (slot : Slot) (fields : Fields) (rest : List Char) :
    (Part.exactly width slot).read fields (n.digits ++ rest) =
      some (fields.set slot n.value, rest) := by
  rw [Part.read, readExactly_digits n.length_digits n.isDigit_of_mem]
  rfl

theorem read_number (n : Numeral 2) (slot : Slot) (fields : Fields) (rest : List Char) :
    (Part.number slot).read fields (n.digits ++ rest) =
      some (fields.set slot n.value, rest) :=
  LooseNumber.read_number_eq_some_iff.mpr ⟨n.loose, rfl, .inl n.length_digits, rfl⟩

theorem read_signedYear (n : Numeral 4) (fields : Fields) (rest : List Char) :
    Part.signedYear.read fields (n.digits ++ rest) =
      some ({ fields with year := n.value }, rest) := by
  have hyear : readYear (n.digits ++ rest) = some ((n.value : Int), rest) :=
    readYear_eq_some_iff.mpr ⟨n.looseYear, rfl, .inl n.length_digits, rfl⟩
  rw [Part.read, n.skipBlank_digits_append, hyear]
  rfl

end Numeral

/-! ### Days -/

namespace WrittenDay

/-- The numbers of a day. -/
def write (day : WrittenDay) (fields : Fields) : Fields :=
  { fields with year := day.year.value, month := day.month.value, day := day.day.value }

theorem isBlank_of_mem (day : WrittenDay) {c : Char} (h : c ∈ day.text) : isBlank c = false := by
  simp only [text, List.mem_append, List.mem_cons] at h
  rcases h with h | rfl | h | rfl | h
  · exact day.year.isBlank_of_mem h
  · rfl
  · exact day.month.isBlank_of_mem h
  · rfl
  · exact day.day.isBlank_of_mem h

theorem text_ne_nil (day : WrittenDay) : day.text ≠ [] := by
  simp [text]

/-- The strict layout reads a day. -/
theorem readParts_strictDay (day : WrittenDay) (parts : List Part) (fields : Fields)
    (rest : List Char) :
    readParts (strictDay ++ parts) fields (day.text ++ rest) =
      readParts parts (day.write fields) rest := by
  simp only [strictDay, text, List.cons_append, List.nil_append, List.append_assoc]
  rw [readParts_cons_of_some (day.year.read_exactly _ _ _),
    readParts_cons_of_some (read_mark_cons (by decide) _ _),
    readParts_cons_of_some (day.month.read_exactly _ _ _),
    readParts_cons_of_some (read_mark_cons (by decide) _ _),
    readParts_cons_of_some (day.day.read_exactly _ _ _)]
  rfl

/-- The loose layouts read the same day. -/
theorem readParts_dayLayout (day : WrittenDay) (parts : List Part) (fields : Fields)
    (rest : List Char) :
    readParts (dayLayout ++ parts) fields (day.text ++ rest) =
      readParts parts (day.write fields) rest := by
  simp only [dayLayout, text, List.cons_append, List.nil_append, List.append_assoc]
  rw [readParts_cons_of_some (day.year.read_signedYear _ _),
    readParts_cons_of_some (read_mark_cons (by decide) _ _),
    readParts_cons_of_some (day.month.read_number _ _ _),
    readParts_cons_of_some (read_mark_cons (by decide) _ _),
    readParts_cons_of_some (day.day.read_number _ _ _)]
  rfl

end WrittenDay

/-! ### Times of day -/

namespace WrittenTime

/-- The numbers of the clock. -/
def writeClock (time : WrittenTime) (fields : Fields) : Fields :=
  { fields with hour := time.hour.value, minute := time.minute.value, second := time.second.value }

/-- The numbers of a time of day. -/
def write (time : WrittenTime) (fields : Fields) : Fields :=
  { time.writeClock fields with nanos := time.nanos }

theorem nanos_eq (time : WrittenTime) : time.nanos = nanosOfDigits time.fraction := by
  rw [nanos, nanosOfDigits, List.rightpad, List.take_append, List.take_replicate,
    List.length_take]
  congr 3
  omega

theorem nanos_lt (time : WrittenTime) : time.nanos < 1000000000 := by
  rw [time.nanos_eq]
  exact nanosOfDigits_lt time.isDigit_of_mem

theorem fractionText_eq_nil_iff (time : WrittenTime) :
    time.fractionText = [] ↔ time.fraction = [] := by
  unfold fractionText
  split
  · next hnil => simp [hnil]
  · next hne => simpa using hne

theorem isBlank_of_mem (time : WrittenTime) {c : Char} (h : c ∈ time.text) :
    isBlank c = false := by
  rcases List.mem_append.mp h with hclock | hfraction
  · simp only [clock, List.mem_append, List.mem_cons] at hclock
    rcases hclock with h | rfl | h | rfl | h
    · exact time.hour.isBlank_of_mem h
    · rfl
    · exact time.minute.isBlank_of_mem h
    · rfl
    · exact time.second.isBlank_of_mem h
  · unfold fractionText at hfraction
    split at hfraction
    · simp at hfraction
    · rcases List.mem_cons.mp hfraction with rfl | hmem
      · rfl
      · exact Text.isBlank_of_isDigit (time.isDigit_of_mem c hmem)

theorem text_ne_nil (time : WrittenTime) : time.text ≠ [] := by
  simp [text, clock]

/-- What may follow a fraction so that it ends there: nothing, or neither a digit nor a point. -/
def EndsBefore (rest : List Char) : Prop := ∀ c ∈ rest.head?, c.isDigit = false ∧ c ≠ '.'

theorem endsBefore_nil : EndsBefore [] := by simp [EndsBefore]

theorem read_fraction (time : WrittenTime) {rest : List Char} (hrest : EndsBefore rest)
    (fields : Fields) :
    Part.fraction.read fields (time.fractionText ++ rest) =
      some ({ fields with nanos := time.nanos }, rest) := by
  rw [time.nanos_eq]
  unfold fractionText
  split
  · next hnil =>
    rw [hnil]
    exact read_fraction_of_no_point (fun c hc => (hrest c hc).2) fields
  · next hne =>
    exact read_fraction_digits hne time.isDigit_of_mem (fun c hc => (hrest c hc).1) fields

/-- The strict layout reads a time of day. -/
theorem readParts_strictTime (time : WrittenTime) (parts : List Part) (fields : Fields)
    {rest : List Char} (hrest : EndsBefore rest) :
    readParts (strictTime ++ parts) fields (time.text ++ rest) =
      readParts parts (time.write fields) rest := by
  simp only [strictTime, text, clock, List.cons_append, List.nil_append, List.append_assoc]
  rw [readParts_cons_of_some (time.hour.read_exactly _ _ _),
    readParts_cons_of_some (read_mark_cons (by decide) _ _),
    readParts_cons_of_some (time.minute.read_exactly _ _ _),
    readParts_cons_of_some (read_mark_cons (by decide) _ _),
    readParts_cons_of_some (time.second.read_exactly _ _ _),
    readParts_cons_of_some (time.read_fraction hrest _)]
  rfl

/-- The loose layouts read the same clock. -/
theorem readParts_looseTime (time : WrittenTime) (parts : List Part) (fields : Fields)
    (rest : List Char) :
    readParts (looseTime ++ parts) fields (time.clock ++ rest) =
      readParts parts (time.writeClock fields) rest := by
  simp only [looseTime, clock, List.cons_append, List.nil_append, List.append_assoc]
  rw [readParts_cons_of_some (time.hour.read_number _ _ _),
    readParts_cons_of_some (read_mark_cons (by decide) _ _),
    readParts_cons_of_some (time.minute.read_number _ _ _),
    readParts_cons_of_some (read_mark_cons (by decide) _ _),
    readParts_cons_of_some (time.second.read_number _ _ _)]
  rfl

end WrittenTime

/-! ### Offsets -/

namespace WrittenZone

/-- The offset in minutes. -/
def minutes : WrittenZone → Int
  | .universal _ _ => 0
  | .ahead hours minutes _ => ((60 * hours.value + minutes.value : Nat) : Int)
  | .behind _ _ hours minutes _ => -((60 * hours.value + minutes.value : Nat) : Int)

theorem seconds_eq (zone : WrittenZone) : zone.seconds = 60 * zone.minutes := by
  cases zone <;> simp only [seconds, minutes] <;> omega

/-- The number of an offset. -/
def write (zone : WrittenZone) (fields : Fields) : Fields :=
  { fields with offset := zone.minutes }

theorem readOffset_digits {hours minutes : Numeral 2}
    (h : hours.value ≤ 23 ∧ minutes.value ≤ 59) :
    readOffset (hours.digits ++ ':' :: minutes.digits) =
      some (60 * hours.value + minutes.value, []) := by
  have hhours := readExactly_digits hours.length_digits hours.isDigit_of_mem
    (':' :: minutes.digits)
  have hminutes := readExactly_digits minutes.length_digits minutes.isDigit_of_mem []
  rw [List.append_nil] at hminutes
  have hrange : hours.value < 24 ∧ minutes.value < 60 := by omega
  rw [readOffset, hhours, Option.bind_eq_bind, Option.bind_some]
  simp only [hminutes, Option.bind_some]
  exact if_pos hrange

theorem read_zone (zone : WrittenZone) (fields : Fields) :
    Part.zone.read fields zone.text = some (zone.write fields, []) := by
  cases zone with
  | universal letter isLetter =>
    rcases isLetter with rfl | rfl <;> rfl
  | ahead hours minutes inRange =>
    rw [Part.read, text, readZone, readOffset_digits inRange]
    rfl
  | behind sign isSign hours minutes inRange =>
    rcases isSign with rfl | rfl
    · rw [Part.read, text, readZone, readOffset_digits inRange]
      rfl
    · rw [Part.read, text, readZone, readOffset_digits inRange]
      rfl

theorem text_ne_nil (zone : WrittenZone) : zone.text ≠ [] := by
  cases zone <;> simp [text]

theorem isBlank_of_mem (zone : WrittenZone) {c : Char} (h : c ∈ zone.text) :
    isBlank c = false := by
  have hoffset {hours minutes : Numeral 2} (h : c ∈ hours.digits ++ ':' :: minutes.digits) :
      isBlank c = false := by
    rcases List.mem_append.mp h with hmem | hmem
    · exact hours.isBlank_of_mem hmem
    · rcases List.mem_cons.mp hmem with rfl | hmem
      · rfl
      · exact minutes.isBlank_of_mem hmem
  cases zone with
  | universal letter isLetter =>
    obtain rfl := List.mem_singleton.mp h
    rcases isLetter with rfl | rfl <;> rfl
  | ahead hours minutes inRange =>
    rcases List.mem_cons.mp h with rfl | hmem
    · rfl
    · exact hoffset hmem
  | behind sign isSign hours minutes inRange =>
    rcases List.mem_cons.mp h with rfl | hmem
    · rcases isSign with rfl | rfl <;> rfl
    · exact hoffset hmem

/-- An offset begins with a letter or a sign, so a fraction ends before it. -/
theorem endsBefore_text (zone : WrittenZone) : WrittenTime.EndsBefore zone.text := by
  intro c hc
  cases zone with
  | universal letter isLetter =>
    obtain rfl := Option.some.inj hc
    rcases isLetter with rfl | rfl <;> decide
  | ahead hours minutes inRange =>
    obtain rfl := Option.some.inj hc
    decide
  | behind sign isSign hours minutes inRange =>
    obtain rfl := Option.some.inj hc
    rcases isSign with rfl | rfl <;> decide

end WrittenZone

/-! ### Whole timestamps -/

variable {layout : List Part} {text : List Char} {fields : Fields}

theorem readBy_of_readParts (h : readParts layout {} text = some (fields, [])) :
    readBy layout text = fields.toInstant? := by
  rw [readBy, h]

theorem readBy_of_rest {rest : List Char} (h : readParts layout {} text = some (fields, rest))
    (hrest : rest ≠ []) : readBy layout text = none := by
  rw [readBy, h]
  cases rest with
  | nil => exact absurd rfl hrest
  | cons c after => rfl

theorem readBy_of_none (h : readParts layout {} text = none) : readBy layout text = none := by
  rw [readBy, h]

/--
If one layout gives a result and every layout gives the same or nothing, the result does not
depend on the order in which the layouts are tried.
-/
theorem readTimestamp_of_layouts {text : String} {result : Option Instant}
    (hall : ∀ layout ∈ layouts, readBy layout (Text.trim text.toList) = none ∨
      readBy layout (Text.trim text.toList) = result)
    (hone : ∃ layout ∈ layouts, readBy layout (Text.trim text.toList) = result) :
    readTimestamp text = result := by
  cases hread : readTimestamp text with
  | none =>
    obtain ⟨layout, hlayout, hresult⟩ := hone
    rw [← hresult]
    exact (List.findSome?_eq_none_iff.mp hread layout hlayout).symm
  | some t =>
    obtain ⟨layout, hlayout, ht⟩ := List.exists_of_findSome?_eq_some hread
    rcases hall layout hlayout with hnone | hresult
    · rw [hnone] at ht
      simp at ht
    · rw [← hresult, ht]

end FacetedSearch.Time
