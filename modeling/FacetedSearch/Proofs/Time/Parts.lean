import FacetedSearch.Proofs.Time.Layout
import FacetedSearch.Time.Loose

/-!
# What each part reads

For each part of a layout the texts that it reads, given by their digits: a number of fixed width, a
number of one or two digits with blanks before it, a year with a sign or without, a mark and
a fraction. The layouts read days and times of day part by part.
-/

namespace FacetedSearch.Time

open Text (decimalValue isBlank skipBlank)

variable {parts : List Part} {fields fields' : Fields} {text rest : List Char}

/-! ### Numbers of fixed width and marks -/

/-- A number of fixed width is read from its digits. -/
theorem readExactly_eq_some_iff {width n : Nat} :
    readExactly width text = some (n, rest) ↔
      ∃ numeral : Numeral width, text = numeral.digits ++ rest ∧ n = numeral.value := by
  constructor
  · intro h
    simp only [readExactly, Option.ite_none_right_eq_some, Option.some.injEq, Prod.mk.injEq] at h
    obtain ⟨⟨hlength, hdigits⟩, rfl, rfl⟩ := h
    exact ⟨⟨text.take width, hlength, List.all_eq_true.mp hdigits⟩,
      (List.take_append_drop width text).symm, rfl⟩
  · rintro ⟨numeral, rfl, rfl⟩
    exact readExactly_digits numeral.length_digits numeral.isDigit_of_mem rest

theorem readParts_exactly_eq_some {width : Nat} {slot : Slot}
    (h : readParts (.exactly width slot :: parts) fields text = some (fields', rest)) :
    ∃ (n : Numeral width) (after : List Char), text = n.digits ++ after ∧
      readParts parts (fields.set slot n.value) after = some (fields', rest) := by
  obtain ⟨between, after, hread, hparts⟩ := readParts_cons_eq_some_iff.mp h
  obtain ⟨⟨n, after'⟩, hexactly, heq⟩ := Option.map_eq_some_iff.mp hread
  obtain ⟨rfl, rfl⟩ := Prod.mk.inj heq
  obtain ⟨numeral, htext, rfl⟩ := readExactly_eq_some_iff.mp hexactly
  exact ⟨numeral, after', htext, hparts⟩

/-- A mark reads one of its characters. -/
theorem readParts_mark_eq_some_iff {allowed : List Char} :
    readParts (.mark allowed :: parts) fields text = some (fields', rest) ↔
      ∃ c ∈ allowed, ∃ after, text = c :: after ∧
        readParts parts fields after = some (fields', rest) := by
  constructor
  · intro h
    obtain ⟨between, after, hread, hparts⟩ := readParts_cons_eq_some_iff.mp h
    cases text with
    | nil => simp [Part.read] at hread
    | cons c after' =>
      simp only [Part.read, Option.ite_none_right_eq_some, Option.some.injEq, Prod.mk.injEq]
        at hread
      obtain ⟨hallowed, rfl, rfl⟩ := hread
      exact ⟨c, hallowed, after', rfl, hparts⟩
  · rintro ⟨c, hallowed, after, rfl, hparts⟩
    rwa [readParts_cons_of_some (read_mark_cons hallowed _ _)]

theorem readParts_mark_singleton_eq_some_iff {c : Char} :
    readParts (.mark [c] :: parts) fields text = some (fields', rest) ↔
      ∃ after, text = c :: after ∧ readParts parts fields after = some (fields', rest) := by
  rw [readParts_mark_eq_some_iff]
  simp only [List.mem_singleton, exists_eq_left]

/-! ### Numbers with blanks before them -/

/-- Without a limit a number ends where its digits end. -/
theorem readNumber_length_eq_some_iff {n : Nat} :
    readNumber text.length text = some (n, rest) ↔
      ∃ digits : List Char, digits ≠ [] ∧ n = decimalValue digits ∧ text = digits ++ rest ∧
        (∀ c ∈ digits, c.isDigit = true) ∧ ∀ c ∈ rest.head?, c.isDigit = false := by
  rw [readNumber_eq_some_iff]
  constructor
  · rintro ⟨digits, hne, hvalue, htake⟩
    obtain ⟨htext, hdigits, -, hends⟩ := takeDigits_eq_iff.mp htake
    refine ⟨digits, hne, hvalue, htext, hdigits, hends.elim (fun hfull => ?_) id⟩
    have hnil : rest = [] := by
      have hlength := congrArg List.length htext
      rw [List.length_append] at hlength
      exact List.eq_nil_of_length_eq_zero (by omega)
    simp [hnil]
  · rintro ⟨digits, hne, hvalue, rfl, hdigits, hends⟩
    exact ⟨digits, hne, hvalue, takeDigits_append hdigits hends⟩

namespace LooseNumber

theorem digits_ne_nil (n : LooseNumber) : n.digits ≠ [] :=
  List.ne_nil_of_length_pos n.length_digits.1

/-- The blanks before a number are skipped, and no more. -/
theorem skipBlank_text_append (n : LooseNumber) (rest : List Char) :
    skipBlank (n.text ++ rest) = n.digits ++ rest := by
  rw [text, List.append_assoc, skipBlank, List.dropWhile_append_of_pos n.isBlank_of_mem]
  exact Text.skipBlank_eq_self (Text.isBlank_of_head?_append n.digits_ne_nil
    (fun c hc => Text.isBlank_of_isDigit (n.isDigit_of_mem c hc)) rest)

/-- A number part reads a loosely written number, up to where it ends. -/
theorem read_number_eq_some_iff {slot : Slot} :
    (Part.number slot).read fields text = some (fields', rest) ↔
      ∃ n : LooseNumber, text = n.text ++ rest ∧ n.EndsBefore rest ∧
        fields' = fields.set slot n.value := by
  constructor
  · intro h
    obtain ⟨⟨n, after⟩, hnumber, heq⟩ := Option.map_eq_some_iff.mp h
    obtain ⟨rfl, rfl⟩ := Prod.mk.inj heq
    obtain ⟨digits, hne, rfl, htake⟩ := readNumber_eq_some_iff.mp hnumber
    obtain ⟨hskip, hdigits, hlength, hends⟩ := takeDigits_eq_iff.mp htake
    refine ⟨⟨text.takeWhile isBlank, digits, fun c => List.mem_takeWhile_imp, hdigits,
      List.length_pos_of_ne_nil hne, hlength⟩, ?_, hends, rfl⟩
    rw [LooseNumber.text, List.append_assoc, ← hskip]
    exact List.takeWhile_append_dropWhile.symm
  · rintro ⟨n, rfl, hends, rfl⟩
    have hnumber : readNumber 2 (n.digits ++ rest) = some (n.value, rest) :=
      readNumber_eq_some_iff.mpr ⟨n.digits, n.digits_ne_nil, rfl,
        takeDigits_eq_iff.mpr ⟨rfl, n.isDigit_of_mem, n.length_digits.2, hends⟩⟩
    rw [Part.read, n.skipBlank_text_append, hnumber]
    rfl

end LooseNumber

theorem readParts_number_eq_some_iff {slot : Slot} :
    readParts (.number slot :: parts) fields text = some (fields', rest) ↔
      ∃ (n : LooseNumber) (after : List Char), text = n.text ++ after ∧ n.EndsBefore after ∧
        readParts parts (fields.set slot n.value) after = some (fields', rest) := by
  rw [readParts_cons_eq_some_iff]
  constructor
  · rintro ⟨between, after, hread, hparts⟩
    obtain ⟨n, htext, hends, rfl⟩ := LooseNumber.read_number_eq_some_iff.mp hread
    exact ⟨n, after, htext, hends, hparts⟩
  · rintro ⟨n, after, htext, hends, hparts⟩
    exact ⟨_, after, LooseNumber.read_number_eq_some_iff.mpr ⟨n, htext, hends, rfl⟩, hparts⟩

/-! ### Years -/

/-- A year is read up to where it ends. -/
theorem readYear_eq_some_iff {n : Int} :
    readYear text = some (n, rest) ↔
      ∃ year : LooseYear, text = year.text ++ rest ∧ year.EndsBefore rest ∧ n = year.value := by
  constructor
  · intro h
    unfold readYear at h
    split at h
    · obtain ⟨⟨value, after⟩, hnumber, heq⟩ := Option.map_eq_some_iff.mp h
      obtain ⟨rfl, rfl⟩ := Prod.mk.inj heq
      obtain ⟨digits, hne, rfl, rfl, hdigits, hends⟩ := readNumber_length_eq_some_iff.mp hnumber
      exact ⟨.signed true digits hdigits hne, rfl, hends, rfl⟩
    · obtain ⟨⟨value, after⟩, hnumber, heq⟩ := Option.map_eq_some_iff.mp h
      obtain ⟨rfl, rfl⟩ := Prod.mk.inj heq
      obtain ⟨digits, hne, rfl, rfl, hdigits, hends⟩ := readNumber_length_eq_some_iff.mp hnumber
      exact ⟨.signed false digits hdigits hne, rfl, hends, rfl⟩
    · obtain ⟨⟨value, after⟩, hnumber, heq⟩ := Option.map_eq_some_iff.mp h
      obtain ⟨rfl, rfl⟩ := Prod.mk.inj heq
      obtain ⟨digits, hne, rfl, htake⟩ := readNumber_eq_some_iff.mp hnumber
      obtain ⟨rfl, hdigits, hlength, hends⟩ := takeDigits_eq_iff.mp htake
      exact ⟨.unsigned digits hdigits ⟨List.length_pos_of_ne_nil hne, hlength⟩, rfl, hends, rfl⟩
  · rintro ⟨year, rfl, hends, rfl⟩
    cases year with
    | unsigned digits hdigits hlength =>
      -- The first character is a digit, so it is no sign.
      obtain ⟨first, others, rfl⟩ := List.exists_cons_of_length_pos hlength.1
      have hnumber : readNumber 4 (first :: (others ++ rest)) =
          some (decimalValue (first :: others), rest) :=
        readNumber_eq_some_iff.mpr ⟨_, List.cons_ne_nil _ _, rfl,
          takeDigits_eq_iff.mpr ⟨rfl, hdigits, hlength.2, hends⟩⟩
      rw [LooseYear.text, List.cons_append, readYear_of_isDigit (hdigits first List.mem_cons_self),
        hnumber]
      rfl
    | signed negative digits hdigits hne =>
      have hnumber : readNumber (digits ++ rest).length (digits ++ rest) =
          some (decimalValue digits, rest) :=
        readNumber_length_eq_some_iff.mpr ⟨digits, hne, rfl, rfl, hdigits, hends⟩
      cases negative with
      | false => exact congrArg (Option.map fun read => ((read.1 : Int), read.2)) hnumber
      | true => exact congrArg (Option.map fun read => (-(read.1 : Int), read.2)) hnumber

theorem readParts_signedYear_eq_some_iff (hfirst : ∀ c ∈ text.head?, isBlank c = false) :
    readParts (.signedYear :: parts) fields text = some (fields', rest) ↔
      ∃ (year : LooseYear) (after : List Char), text = year.text ++ after ∧
        year.EndsBefore after ∧
        readParts parts { fields with year := year.value } after = some (fields', rest) := by
  have hskip : skipBlank text = text := Text.skipBlank_eq_self hfirst
  rw [readParts_cons_eq_some_iff]
  constructor
  · rintro ⟨between, after, hread, hparts⟩
    obtain ⟨⟨n, after'⟩, hyear, heq⟩ := Option.map_eq_some_iff.mp hread
    obtain ⟨rfl, rfl⟩ := Prod.mk.inj heq
    rw [hskip] at hyear
    obtain ⟨year, htext, hends, rfl⟩ := readYear_eq_some_iff.mp hyear
    exact ⟨year, after', htext, hends, hparts⟩
  · rintro ⟨year, after, htext, hends, hparts⟩
    have hyear : readYear text = some (year.value, after) :=
      readYear_eq_some_iff.mpr ⟨year, htext, hends, rfl⟩
    refine ⟨_, after, ?_, hparts⟩
    rw [Part.read, hskip, hyear]
    rfl

/-! ### Fractions -/

/-- A fraction reads nothing, or a point and digits. -/
theorem readParts_fraction_eq_some
    (h : readParts (.fraction :: parts) fields text = some (fields', rest)) :
    ∃ digits after : List Char, (∀ c ∈ digits, c.isDigit = true) ∧
      text = pointed digits ++ after ∧
      readParts parts { fields with nanos := nanosOfDigits digits } after =
        some (fields', rest) := by
  obtain ⟨between, after, hread, hparts⟩ := readParts_cons_eq_some_iff.mp h
  obtain ⟨⟨n, after'⟩, hfraction, heq⟩ := Option.map_eq_some_iff.mp hread
  obtain ⟨rfl, rfl⟩ := Prod.mk.inj heq
  unfold readFraction at hfraction
  split at hfraction
  · next digitsAndRest =>
    obtain ⟨htext, hdigits⟩ := takeDigits_spec digitsAndRest.length digitsAndRest
    split at hfraction
    · simp at hfraction
    · next digits _ hne htake =>
      rw [htake] at htext hdigits
      obtain ⟨rfl, rfl⟩ := Prod.mk.inj (Option.some.inj hfraction)
      exact ⟨digits, _, hdigits, by rw [htext, pointed_of_ne_nil hne, List.cons_append], hparts⟩
  · obtain ⟨rfl, rfl⟩ := Prod.mk.inj (Option.some.inj hfraction)
    exact ⟨[], _, by simp, rfl, hparts⟩

theorem readParts_fraction_end_eq_some_iff :
    readParts [.fraction] fields text = some (fields', []) ↔
      ∃ digits : List Char, (∀ c ∈ digits, c.isDigit = true) ∧ text = pointed digits ∧
        fields' = { fields with nanos := nanosOfDigits digits } := by
  constructor
  · intro h
    obtain ⟨digits, after, hdigits, rfl, hend⟩ := readParts_fraction_eq_some h
    obtain ⟨rfl, rfl⟩ := Prod.mk.inj (Option.some.inj hend)
    exact ⟨digits, hdigits, List.append_nil _, rfl⟩
  · rintro ⟨digits, hdigits, rfl, rfl⟩
    by_cases hne : digits = []
    · subst hne
      rw [readParts_cons_of_some (read_fraction_of_no_point (by simp [pointed]) fields)]
      rfl
    · have hend : ∀ c ∈ ([] : List Char).head?, c.isDigit = false := by simp
      have hread := read_fraction_digits hne hdigits hend fields
      rw [List.append_nil] at hread
      rw [pointed_of_ne_nil hne, readParts_cons_of_some hread]
      rfl

end FacetedSearch.Time
