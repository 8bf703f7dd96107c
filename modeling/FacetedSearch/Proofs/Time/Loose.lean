import FacetedSearch.Proofs.Time.Parts
import Mathlib.Data.List.DropRight

/-!
# What the loose layouts read

The layouts without an offset read a loosely written day, alone or with a loosely written time
of day, and no other text that begins with a visible character.
-/

namespace FacetedSearch.Time

open Text (isBlank skipBlank)

variable {parts : List Part} {fields fields' : Fields} {text rest : List Char}

/-! ### Days -/

/-- The numbers of a day. -/
def LooseDay.write (day : LooseDay) (fields : Fields) : Fields :=
  { fields with year := day.year.value, month := day.month.value, day := day.day.value }

/-- A day is read at a visible character, up to where the number of its day ends. -/
theorem readParts_dayLayout_eq_some_iff (hfirst : ∀ c ∈ text.head?, isBlank c = false) :
    readParts (dayLayout ++ parts) fields text = some (fields', rest) ↔
      ∃ (day : LooseDay) (after : List Char), text = day.text ++ after ∧
        day.day.EndsBefore after ∧ readParts parts (day.write fields) after =
          some (fields', rest) := by
  simp only [dayLayout, List.cons_append, List.nil_append]
  constructor
  · intro h
    obtain ⟨year, _, rfl, -, h⟩ := (readParts_signedYear_eq_some_iff hfirst).mp h
    obtain ⟨_, rfl, h⟩ := readParts_mark_singleton_eq_some_iff.mp h
    obtain ⟨month, _, rfl, -, h⟩ := readParts_number_eq_some_iff.mp h
    obtain ⟨_, rfl, h⟩ := readParts_mark_singleton_eq_some_iff.mp h
    obtain ⟨day, after, rfl, hends, h⟩ := readParts_number_eq_some_iff.mp h
    refine ⟨⟨year, month, day⟩, after, ?_, hends, h⟩
    simp only [LooseDay.text, List.append_assoc, List.cons_append]
  · rintro ⟨⟨year, month, day⟩, after, rfl, hends, h⟩
    simp only [LooseDay.text, List.append_assoc, List.cons_append] at hfirst ⊢
    have hyear : year.EndsBefore ('-' :: (month.text ++ '-' :: (day.text ++ after))) := by
      cases year <;> simp [LooseYear.EndsBefore]
    refine (readParts_signedYear_eq_some_iff hfirst).mpr ⟨year, _, rfl, hyear, ?_⟩
    refine readParts_mark_singleton_eq_some_iff.mpr ⟨_, rfl, ?_⟩
    refine readParts_number_eq_some_iff.mpr ⟨month, _, rfl, .inr (by simp), ?_⟩
    refine readParts_mark_singleton_eq_some_iff.mpr ⟨_, rfl, ?_⟩
    exact readParts_number_eq_some_iff.mpr ⟨day, after, rfl, hends, h⟩

/-! ### Times of day -/

namespace LooseTime

/-- The numbers of a time of day. -/
def write (time : LooseTime) (fields : Fields) : Fields :=
  { fields with
    hour := time.hour.value, minute := time.minute.value, second := time.second.value,
    nanos := nanosOfDigits time.fraction }

/-- A number ends before a fraction, or at the end of the text. -/
theorem endsBefore_pointed (n : LooseNumber) (digits : List Char) :
    n.EndsBefore (pointed digits) := by
  refine .inr fun c hc => ?_
  cases digits with
  | nil => simp [pointed] at hc
  | cons d others =>
    obtain rfl := Option.some.inj hc
    rfl

/-- The rest of a text is read as a time of day, with or without a fraction. -/
theorem readParts_looseTime_eq_some_iff :
    readParts (looseTime ++ [.fraction]) fields text = some (fields', []) ↔
      ∃ time : LooseTime, text = time.text ∧ fields' = time.write fields := by
  simp only [looseTime, List.cons_append, List.nil_append]
  constructor
  · intro h
    obtain ⟨hour, _, rfl, -, h⟩ := readParts_number_eq_some_iff.mp h
    obtain ⟨_, rfl, h⟩ := readParts_mark_singleton_eq_some_iff.mp h
    obtain ⟨minute, _, rfl, -, h⟩ := readParts_number_eq_some_iff.mp h
    obtain ⟨_, rfl, h⟩ := readParts_mark_singleton_eq_some_iff.mp h
    obtain ⟨second, _, rfl, -, h⟩ := readParts_number_eq_some_iff.mp h
    obtain ⟨fraction, hfraction, rfl, rfl⟩ := readParts_fraction_end_eq_some_iff.mp h
    refine ⟨⟨hour, minute, second, fraction, hfraction⟩, ?_, rfl⟩
    simp only [text, clock, List.append_assoc, List.cons_append]
  · rintro ⟨⟨hour, minute, second, fraction, hfraction⟩, rfl, rfl⟩
    simp only [text, clock, List.append_assoc, List.cons_append]
    refine readParts_number_eq_some_iff.mpr ⟨hour, _, rfl, .inr (by simp), ?_⟩
    refine readParts_mark_singleton_eq_some_iff.mpr ⟨_, rfl, ?_⟩
    refine readParts_number_eq_some_iff.mpr ⟨minute, _, rfl, .inr (by simp), ?_⟩
    refine readParts_mark_singleton_eq_some_iff.mpr ⟨_, rfl, ?_⟩
    refine readParts_number_eq_some_iff.mpr ⟨second, _, rfl, endsBefore_pointed _ _, ?_⟩
    exact readParts_fraction_end_eq_some_iff.mpr ⟨fraction, hfraction, rfl, rfl⟩

/-- A day that ends in one digit ends before blanks, not before an hour. -/
theorem endsBefore_text_iff (n : LooseNumber) (time : LooseTime) :
    n.EndsBefore time.text ↔ n.digits.length = 2 ∨ time.hour.blanks ≠ [] := by
  refine or_congr_right ?_
  simp only [text, clock, LooseNumber.text, List.append_assoc]
  cases hblanks : time.hour.blanks with
  | nil =>
    obtain ⟨first, others, hdigits⟩ :=
      List.exists_cons_of_length_pos time.hour.length_digits.1
    have hfirst : first.isDigit = true :=
      time.hour.isDigit_of_mem first (hdigits ▸ List.mem_cons_self)
    simp [hdigits, hfirst]
  | cons blank others =>
    have hblank : isBlank blank = true :=
      time.hour.isBlank_of_mem blank (hblanks ▸ List.mem_cons_self)
    have hdigit : blank.isDigit = false := by
      by_contra hdigit
      rw [Text.isBlank_of_isDigit (eq_true_of_ne_false hdigit)] at hblank
      simp at hblank
    simp [hdigit]

end LooseTime

/-! ### Whole timestamps -/

theorem readBy_letter_eq_some_iff (hfirst : ∀ c ∈ text.head?, isBlank c = false) {t : Instant} :
    readBy (dayLayout ++ [.mark ['T']] ++ looseTime ++ [.fraction]) text = some t ↔
      ∃ (day : LooseDay) (time : LooseTime), text = day.text ++ 'T' :: time.text ∧
        (time.write (day.write {})).toInstant? = some t := by
  rw [readBy_eq_some_iff, List.append_assoc, List.append_assoc]
  simp only [readParts_dayLayout_eq_some_iff hfirst, List.cons_append, List.nil_append,
    readParts_mark_singleton_eq_some_iff, LooseTime.readParts_looseTime_eq_some_iff]
  constructor
  · rintro ⟨_, ⟨day, _, rfl, -, _, rfl, time, rfl, rfl⟩, ht⟩
    exact ⟨day, time, rfl, ht⟩
  · rintro ⟨day, time, rfl, ht⟩
    exact ⟨_, ⟨day, _, rfl, .inr (by simp), _, rfl, time, rfl, rfl⟩, ht⟩

/-- A gap reads nothing that the number after it would not read. -/
theorem readParts_gap_looseTime :
    readParts (.gap :: (looseTime ++ parts)) fields text =
      readParts (looseTime ++ parts) fields text := by
  have hskip : skipBlank (skipBlank text) = skipBlank text := List.dropWhile_idempotent isBlank text
  have hnumber : (Part.number .hour).read fields (skipBlank text) =
      (Part.number .hour).read fields text := by
    rw [Part.read, Part.read, hskip]
  have hgap : Part.gap.read fields text = some (fields, skipBlank text) := rfl
  rw [readParts_cons_of_some hgap, looseTime, List.cons_append, readParts, readParts, hnumber]

theorem readBy_gap_eq_some_iff (hfirst : ∀ c ∈ text.head?, isBlank c = false) {t : Instant} :
    readBy (dayLayout ++ [.gap] ++ looseTime ++ [.fraction]) text = some t ↔
      ∃ (day : LooseDay) (time : LooseTime), text = day.text ++ time.text ∧
        day.day.EndsBefore time.text ∧ (time.write (day.write {})).toInstant? = some t := by
  rw [readBy_eq_some_iff, List.append_assoc, List.append_assoc]
  simp only [readParts_dayLayout_eq_some_iff hfirst, List.cons_append, List.nil_append,
    readParts_gap_looseTime, LooseTime.readParts_looseTime_eq_some_iff]
  constructor
  · rintro ⟨_, ⟨day, _, rfl, hends, time, rfl, rfl⟩, ht⟩
    exact ⟨day, time, rfl, hends, ht⟩
  · rintro ⟨day, time, rfl, hends, ht⟩
    exact ⟨_, ⟨day, _, rfl, hends, time, rfl, rfl⟩, ht⟩

theorem readBy_day_eq_some_iff (hfirst : ∀ c ∈ text.head?, isBlank c = false) {t : Instant} :
    readBy dayLayout text = some t ↔
      ∃ day : LooseDay, text = day.text ∧ (day.write {}).toInstant? = some t := by
  rw [readBy_eq_some_iff, ← List.append_nil dayLayout]
  simp only [readParts_dayLayout_eq_some_iff hfirst, readParts, Option.some.injEq, Prod.mk.injEq]
  constructor
  · rintro ⟨_, ⟨day, _, rfl, -, rfl, rfl⟩, ht⟩
    exact ⟨day, List.append_nil _, ht⟩
  · rintro ⟨day, rfl, ht⟩
    exact ⟨_, ⟨day, [], (List.append_nil _).symm, .inr (by simp), rfl, rfl⟩, ht⟩

end FacetedSearch.Time
