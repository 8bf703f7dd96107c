import FacetedSearch.Proofs.Text.Digits
import FacetedSearch.Proofs.Text.Trim
import FacetedSearch.Time.Layout
import Mathlib.Data.List.TakeWhile

/-!
# Reading layouts part by part

What a number written with a fixed width is read as, and which characters the parts of a layout
read. No part but the zone reads the letter for universal time, so a text with this letter in it
is read by the strict layout or not at all.
-/

namespace FacetedSearch.Time

open Text (decimalValue isBlank skipBlank padded)

variable {part : Part} {parts : List Part} {fields fields' : Fields} {text rest : List Char}

theorem readParts_cons_of_some (h : part.read fields text = some (fields', rest)) :
    readParts (part :: parts) fields text = readParts parts fields' rest := by
  rw [readParts, h]
  rfl

theorem readParts_cons_of_none (h : part.read fields text = none) :
    readParts (part :: parts) fields text = none := by
  rw [readParts, h]
  rfl

/-- The parts of a layout read one text after the other. -/
theorem readParts_cons_eq_some_iff :
    readParts (part :: parts) fields text = some (fields', rest) ↔
      ∃ between after, part.read fields text = some (between, after) ∧
        readParts parts between after = some (fields', rest) := by
  cases hread : part.read fields text with
  | none => simp [readParts_cons_of_none hread]
  | some found =>
    obtain ⟨between, after⟩ := found
    simp [readParts_cons_of_some hread, and_assoc]

theorem readParts_append_eq_some_iff {parts' : List Part} :
    readParts (parts ++ parts') fields text = some (fields', rest) ↔
      ∃ between after, readParts parts fields text = some (between, after) ∧
        readParts parts' between after = some (fields', rest) := by
  induction parts generalizing fields text with
  | nil => simp [readParts, and_assoc]
  | cons part parts ih =>
    simp only [List.cons_append, readParts_cons_eq_some_iff, ih]
    constructor
    · rintro ⟨first, text', hfirst, between, after, hparts, hparts'⟩
      exact ⟨between, after, ⟨first, text', hfirst, hparts⟩, hparts'⟩
    · rintro ⟨between, after, ⟨first, text', hfirst, hparts⟩, hparts'⟩
      exact ⟨first, text', hfirst, between, after, hparts, hparts'⟩

/-- A text is read if its numbers are read to the end and denote an instant. -/
theorem readBy_eq_some_iff {t : Instant} :
    readBy parts text = some t ↔
      ∃ fields, readParts parts {} text = some (fields, []) ∧ fields.toInstant? = some t := by
  rw [readBy]
  split
  · next fields hread => simp [hread]
  · next hread =>
    simp only [reduceCtorEq, false_iff, not_exists, not_and]
    exact fun fields h => absurd h (hread fields)

/-- When the value that was read is changed afterwards, the rest of the text stays the rest. -/
theorem exists_of_map_eq_some {α β : Type} {result : Option (α × List Char)}
    {change : α × List Char → β × List Char} {value : β}
    (h : result.map change = some (value, rest)) (hchange : ∀ read, (change read).2 = read.2) :
    ∃ found, result = some (found, rest) := by
  obtain ⟨⟨found, after⟩, hresult, heq⟩ := Option.map_eq_some_iff.mp h
  have hrest : (change (found, after)).2 = after := hchange (found, after)
  rw [heq] at hrest
  exact ⟨found, hresult.trans (congrArg (fun text => some (found, text)) hrest.symm)⟩

/-- Exactly so many characters are read as digits, if they are. -/
theorem readExactly_eq_some {width n : Nat} (h : readExactly width text = some (n, rest)) :
    ∃ digits : List Char, text = digits ++ rest ∧ ∀ c ∈ digits, c.isDigit = true := by
  simp only [readExactly, Option.ite_none_right_eq_some, Option.some.injEq, Prod.mk.injEq] at h
  obtain ⟨⟨-, hdigits⟩, -, rfl⟩ := h
  exact ⟨text.take width, (List.take_append_drop width text).symm, List.all_eq_true.mp hdigits⟩

/-- What is taken are digits, and the text goes on after them. -/
theorem takeDigits_spec (limit : Nat) (text : List Char) :
    text = (takeDigits limit text).1 ++ (takeDigits limit text).2 ∧
      ∀ c ∈ (takeDigits limit text).1, c.isDigit = true := by
  constructor
  · have hprefix : (takeDigits limit text).1 <+: text :=
      (List.takeWhile_prefix _).trans (List.take_prefix limit text)
    exact (List.prefix_iff_eq_append.mp hprefix).symm
  · exact fun c => List.mem_takeWhile_imp

/-- With the limit not reached, no digit follows those that are taken. -/
theorem ends_of_takeDigits {limit : Nat} {digits : List Char}
    (h : takeDigits limit text = (digits, rest)) :
    digits.length = limit ∨ ∀ c ∈ rest.head?, c.isDigit = false := by
  have htext : text = digits ++ rest := by
    have hspec := (takeDigits_spec limit text).1
    rwa [h] at hspec
  have htaken : (text.take limit).takeWhile Char.isDigit = digits := congrArg Prod.fst h
  by_cases hshort : digits.length < limit
  · refine .inr fun c hc => ?_
    have hlimit : text.take limit = digits ++ rest.take (limit - digits.length) := by
      rw [htext, List.take_append, List.take_of_length_le (Nat.le_of_lt hshort)]
    have hleft : (text.take limit).dropWhile Char.isDigit =
        rest.take (limit - digits.length) := by
      have hsplit := List.takeWhile_append_dropWhile (p := Char.isDigit) (l := text.take limit)
      rw [htaken] at hsplit
      exact List.append_cancel_left (hsplit.trans hlimit)
    have hhead : (rest.take (limit - digits.length)).head? = some c := by
      rw [List.head?_take, if_neg (by omega)]
      exact hc
    have hstop := List.head?_dropWhile_not Char.isDigit (text.take limit)
    rw [hleft, hhead] at hstop
    simpa using hstop
  · have hle : digits.length ≤ limit := by
      rw [← htaken]
      exact (List.takeWhile_prefix Char.isDigit).length_le.trans (List.length_take_le limit text)
    exact .inl (by omega)

/-- Digits are taken up to the limit, or up to a character that is no digit. -/
theorem takeDigits_eq_iff {limit : Nat} {digits : List Char} :
    takeDigits limit text = (digits, rest) ↔
      text = digits ++ rest ∧ (∀ c ∈ digits, c.isDigit = true) ∧ digits.length ≤ limit ∧
        (digits.length = limit ∨ ∀ c ∈ rest.head?, c.isDigit = false) := by
  constructor
  · intro h
    obtain ⟨htext, hdigits⟩ := takeDigits_spec limit text
    have hlength : (takeDigits limit text).1.length ≤ limit :=
      (List.takeWhile_prefix _).length_le.trans (List.length_take_le limit text)
    rw [h] at htext hdigits hlength
    exact ⟨htext, hdigits, hlength, ends_of_takeDigits h⟩
  · rintro ⟨rfl, hdigits, hlength, hends⟩
    have hstop : (rest.take (limit - digits.length)).takeWhile Char.isDigit = [] := by
      rcases hends with hfull | hhead
      · simp [hfull]
      · cases rest with
        | nil => simp
        | cons c after =>
          cases limit - digits.length with
          | zero => rfl
          | succ room => exact List.takeWhile_cons_of_neg (by simp [hhead c rfl])
    rw [takeDigits, List.take_append, List.take_of_length_le hlength,
      List.takeWhile_append_of_pos hdigits, hstop, List.append_nil, List.drop_left]

/-- A number is read from its digits, at least one. -/
theorem readNumber_eq_some_iff {limit n : Nat} :
    readNumber limit text = some (n, rest) ↔
      ∃ digits : List Char, digits ≠ [] ∧ n = decimalValue digits ∧
        takeDigits limit text = (digits, rest) := by
  rw [readNumber]
  split
  · next after htake =>
    simp [htake]
  · next digits after hne htake =>
    simp only [htake, Option.some.injEq, Prod.mk.injEq]
    constructor
    · rintro ⟨rfl, rfl⟩
      exact ⟨digits, hne, rfl, rfl, rfl⟩
    · rintro ⟨digits', hne', rfl, rfl, rfl⟩
      exact ⟨rfl, rfl⟩

theorem readNumber_eq_some {limit n : Nat} (h : readNumber limit text = some (n, rest)) :
    ∃ digits : List Char, text = digits ++ rest ∧ ∀ c ∈ digits, c.isDigit = true := by
  obtain ⟨digits, -, -, htake⟩ := readNumber_eq_some_iff.mp h
  obtain ⟨htext, hdigits, -⟩ := takeDigits_eq_iff.mp htake
  exact ⟨digits, htext, hdigits⟩

/-! ### The letter for universal time -/

/-- A part that never reads the letter `Z`: any but the zone and a mark of this letter. -/
def Part.NeverReadsZ : Part → Prop
  | .mark allowed => 'Z' ∉ allowed
  | .zone => False
  | _ => True

instance : DecidablePred Part.NeverReadsZ
  | .mark allowed => inferInstanceAs (Decidable ('Z' ∉ allowed))
  | .zone => .isFalse id
  | .exactly _ _ => .isTrue trivial
  | .number _ => .isTrue trivial
  | .signedYear => .isTrue trivial
  | .gap => .isTrue trivial
  | .fraction => .isTrue trivial

theorem mem_skipBlank (h : 'Z' ∈ text) : 'Z' ∈ skipBlank text := by
  have hvisible : 'Z' ∈ Text.visible (skipBlank text) := by
    rw [Text.visible_skipBlank]
    exact List.mem_filter.mpr ⟨h, rfl⟩
  exact List.mem_of_mem_filter hvisible

/-- The letter is no digit, so it comes after digits that are read. -/
theorem mem_of_digits {digits : List Char} (h : 'Z' ∈ digits ++ rest)
    (hdigits : ∀ c ∈ digits, c.isDigit = true) : 'Z' ∈ rest := by
  rcases List.mem_append.mp h with hmem | hmem
  · exact absurd (hdigits 'Z' hmem) (by decide)
  · exact hmem

theorem mem_of_readNumber {limit n : Nat} (hread : readNumber limit text = some (n, rest))
    (h : 'Z' ∈ text) : 'Z' ∈ rest := by
  obtain ⟨digits, rfl, hdigits⟩ := readNumber_eq_some hread
  exact mem_of_digits h hdigits

theorem mem_of_readYear {n : Int} (hread : readYear text = some (n, rest)) (h : 'Z' ∈ text) :
    'Z' ∈ rest := by
  unfold readYear at hread
  split at hread
  · obtain ⟨found, hnumber⟩ := exists_of_map_eq_some hread fun _ => rfl
    exact mem_of_readNumber hnumber (List.mem_of_ne_of_mem (by decide) h)
  · obtain ⟨found, hnumber⟩ := exists_of_map_eq_some hread fun _ => rfl
    exact mem_of_readNumber hnumber (List.mem_of_ne_of_mem (by decide) h)
  · obtain ⟨found, hnumber⟩ := exists_of_map_eq_some hread fun _ => rfl
    exact mem_of_readNumber hnumber h

theorem mem_of_readFraction {n : Nat} (hread : readFraction text = some (n, rest))
    (h : 'Z' ∈ text) : 'Z' ∈ rest := by
  unfold readFraction at hread
  split at hread
  · next after =>
    obtain ⟨htext, hdigits⟩ := takeDigits_spec after.length after
    split at hread
    · simp at hread
    · next digits after' _ htake =>
      rw [htake] at htext hdigits
      obtain ⟨-, rfl⟩ := Prod.mk.inj (Option.some.inj hread)
      have hafter : 'Z' ∈ after := List.mem_of_ne_of_mem (by decide) h
      rw [htext] at hafter
      exact mem_of_digits hafter hdigits
  · obtain ⟨-, rfl⟩ := Prod.mk.inj (Option.some.inj hread)
    exact h

/-- A part other than the zone leaves the letter in the rest of the text. -/
theorem Part.mem_of_read (hpart : part.NeverReadsZ)
    (hread : part.read fields text = some (fields', rest)) (h : 'Z' ∈ text) : 'Z' ∈ rest := by
  cases part with
  | exactly width slot =>
    obtain ⟨found, hnumber⟩ := exists_of_map_eq_some hread fun _ => rfl
    obtain ⟨digits, rfl, hdigits⟩ := readExactly_eq_some hnumber
    exact mem_of_digits h hdigits
  | number slot =>
    obtain ⟨found, hnumber⟩ := exists_of_map_eq_some hread fun _ => rfl
    exact mem_of_readNumber hnumber (mem_skipBlank h)
  | signedYear =>
    obtain ⟨found, hyear⟩ := exists_of_map_eq_some hread fun _ => rfl
    exact mem_of_readYear hyear (mem_skipBlank h)
  | mark allowed =>
    cases text with
    | nil => simp [Part.read] at hread
    | cons c after =>
      simp only [Part.read, Option.ite_none_right_eq_some, Option.some.injEq, Prod.mk.injEq]
        at hread
      obtain ⟨hallowed, -, rfl⟩ := hread
      have hne : 'Z' ≠ c := by
        rintro rfl
        exact hpart hallowed
      exact List.mem_of_ne_of_mem hne h
  | gap =>
    obtain ⟨-, rfl⟩ := Prod.mk.inj (Option.some.inj hread)
    exact mem_skipBlank h
  | fraction =>
    obtain ⟨found, hfraction⟩ := exists_of_map_eq_some hread fun _ => rfl
    exact mem_of_readFraction hfraction h
  | zone => exact hpart.elim

/-- A layout without a zone leaves the letter in the rest of the text. -/
theorem mem_of_readParts (hparts : ∀ part ∈ parts, part.NeverReadsZ)
    (hread : readParts parts fields text = some (fields', rest)) (h : 'Z' ∈ text) : 'Z' ∈ rest := by
  -- The letter stays in what the parts read so far have left.
  induction parts generalizing fields text with
  | nil =>
    obtain ⟨-, rfl⟩ := Prod.mk.inj (Option.some.inj hread)
    exact h
  | cons part parts ih =>
    obtain ⟨hpart, hrest⟩ := List.forall_mem_cons.mp hparts
    cases hfirst : part.read fields text with
    | none =>
      rw [readParts_cons_of_none hfirst] at hread
      simp at hread
    | some result =>
      obtain ⟨fields'', after⟩ := result
      rw [readParts_cons_of_some hfirst] at hread
      exact ih hrest hread (part.mem_of_read hpart hfirst h)

/-- A layout without a zone reads no text with the letter in it. -/
theorem readBy_eq_none_of_mem (hparts : ∀ part ∈ parts, part.NeverReadsZ) (h : 'Z' ∈ text) :
    readBy parts text = none := by
  rw [readBy]
  split
  · next fields hread =>
    exact absurd (mem_of_readParts hparts hread h) List.not_mem_nil
  · rfl

/-- A text with the letter in it is read by the strict layout or not at all. -/
theorem readTimestamp_eq_readBy {text : String} (h : 'Z' ∈ Text.trim text.toList) :
    readTimestamp text = readBy zonedLayout (Text.trim text.toList) := by
  have hloose : ∀ layout ∈ layouts.tail, readBy layout (Text.trim text.toList) = none := by
    intro layout hlayout
    have hparts : ∀ layout ∈ layouts.tail, ∀ part ∈ layout, part.NeverReadsZ := by decide
    exact readBy_eq_none_of_mem (hparts layout hlayout) h
  have hcons : layouts = zonedLayout :: layouts.tail := rfl
  rw [readTimestamp, hcons, List.findSome?_cons, List.findSome?_eq_none_iff.mpr hloose]
  cases readBy zonedLayout (Text.trim text.toList) <;> rfl

/-! ### Digits and marks -/

/-- The digits before another character, or at the end, are taken. -/
theorem takeDigits_append {digits : List Char} (hdigits : ∀ c ∈ digits, c.isDigit = true)
    (hrest : ∀ c ∈ rest.head?, c.isDigit = false) :
    takeDigits (digits ++ rest).length (digits ++ rest) = (digits, rest) :=
  takeDigits_eq_iff.mpr ⟨rfl, hdigits, by simp, .inr hrest⟩

/-- A year that begins with a digit has no sign. -/
theorem readYear_of_isDigit {c : Char} (h : c.isDigit = true) (rest : List Char) :
    readYear (c :: rest) =
      (readNumber 4 (c :: rest)).map fun (n, rest) => ((n : Int), rest) := by
  unfold readYear
  split
  · next after hsign =>
    obtain ⟨rfl, -⟩ := List.cons.inj hsign
    exact absurd h (by decide)
  · next after hsign =>
    obtain ⟨rfl, -⟩ := List.cons.inj hsign
    exact absurd h (by decide)
  · rfl

/-- A number of fixed width is read as its digits say. -/
theorem readExactly_digits {digits : List Char} {width : Nat} (hlength : digits.length = width)
    (hdigits : ∀ c ∈ digits, c.isDigit = true) (rest : List Char) :
    readExactly width (digits ++ rest) = some (decimalValue digits, rest) := by
  have hall : digits.all Char.isDigit = true := List.all_eq_true.mpr hdigits
  simp only [readExactly, List.take_left' hlength, List.drop_left' hlength, hlength, hall,
    and_self, if_true]

theorem read_mark_cons {allowed : List Char} {c : Char} (h : c ∈ allowed) (fields : Fields)
    (rest : List Char) : (Part.mark allowed).read fields (c :: rest) = some (fields, rest) := by
  simp only [Part.read, if_pos h]

theorem read_mark_cons_eq_none {allowed : List Char} {c : Char} (h : c ∉ allowed)
    (fields : Fields) (rest : List Char) : (Part.mark allowed).read fields (c :: rest) = none := by
  simp only [Part.read, if_neg h]

/-- A point and digits before another character, or at the end, are read as nanoseconds. -/
theorem read_fraction_digits {digits : List Char} (hne : digits ≠ [])
    (hdigits : ∀ c ∈ digits, c.isDigit = true) (hrest : ∀ c ∈ rest.head?, c.isDigit = false)
    (fields : Fields) :
    Part.fraction.read fields ('.' :: (digits ++ rest)) =
      some ({ fields with nanos := nanosOfDigits digits }, rest) := by
  rw [Part.read, readFraction, takeDigits_append hdigits hrest]
  split
  · next hnil => exact absurd (Prod.mk.inj hnil).1 hne
  · next digits' after _ hsome =>
    obtain ⟨rfl, rfl⟩ := Prod.mk.inj hsome
    rfl

/-- Without a point there is no fraction. -/
theorem read_fraction_of_no_point (h : ∀ c ∈ text.head?, c ≠ '.') (fields : Fields) :
    Part.fraction.read fields text = some ({ fields with nanos := 0 }, text) := by
  have hread : readFraction text = some (0, text) := by
    unfold readFraction
    split
    · exact absurd rfl (h '.' rfl)
    · rfl
  rw [Part.read, hread]
  rfl

/-! ### Written numbers -/

/-- A number below 10 is written with one digit, one below 100 with two, and so on. -/
theorem length_padded_of_lt {width n : Nat} (hwidth : 0 < width) (h : n < Nat.pow 10 width) :
    (padded width n).length = width :=
  Text.length_padded ((Nat.length_toDigits_le_iff (by decide) hwidth).mpr h)

/-- A number written with a fixed width is read back. -/
theorem read_exactly_padded {width n : Nat} (hwidth : (padded width n).length = width) (slot : Slot)
    (fields : Fields) (rest : List Char) :
    (Part.exactly width slot).read fields (padded width n ++ rest) =
      some (fields.set slot n, rest) := by
  have hread := readExactly_digits hwidth (fun _ => Text.isDigit_of_mem_padded) rest
  rw [Text.decimalValue_padded] at hread
  rw [Part.read, hread]
  rfl

/-- A fraction has less than a second's nanoseconds. -/
theorem nanosOfDigits_lt {digits : List Char} (hdigits : ∀ c ∈ digits, c.isDigit = true) :
    nanosOfDigits digits < 1000000000 := by
  have hpadded : ∀ c ∈ (digits ++ List.replicate 9 '0').take 9, c.isDigit = true := by
    intro c hc
    rcases List.mem_append.mp (List.mem_of_mem_take hc) with hmem | hmem
    · exact hdigits c hmem
    · rw [List.eq_of_mem_replicate hmem]
      rfl
  have hlength : ((digits ++ List.replicate 9 '0').take 9).length = 9 := by
    rw [List.length_take, List.length_append, List.length_replicate]
    omega
  have hlt := Text.decimalValue_lt hpadded
  rw [hlength] at hlt
  exact hlt

/-- Milliseconds are read as so many nanoseconds. -/
theorem nanosOfDigits_padded {n : Nat} (h : n < 1000) :
    nanosOfDigits (padded 3 n) = 1000000 * n := by
  have hlength : (padded 3 n).length = 3 := length_padded_of_lt (by decide) h
  have htake : (padded 3 n ++ List.replicate 9 '0').take 9 =
      padded 3 n ++ List.replicate 6 '0' := by
    rw [List.take_append, hlength, List.take_of_length_le (by omega), List.take_replicate]
    rfl
  have hzeros (m : Nat) : Nat.ofDigitChars 10 (List.replicate 6 '0') m = 1000000 * m := by
    simp only [Nat.ofDigitChars, List.replicate, List.foldl_cons, List.foldl_nil]
    omega
  have hvalue := Text.decimalValue_padded 3 n
  rw [decimalValue] at hvalue
  rw [nanosOfDigits, htake, decimalValue, Nat.ofDigitChars_append, hvalue, hzeros]

/-- A fraction of three digits before another character is read as milliseconds. -/
theorem read_fraction_padded {n : Nat} (h : n < 1000) {c : Char} (hc : c.isDigit = false)
    (fields : Fields) (rest : List Char) :
    Part.fraction.read fields ('.' :: (padded 3 n ++ c :: rest)) =
      some ({ fields with nanos := 1000000 * n }, c :: rest) := by
  have hlength : (padded 3 n).length = 3 := length_padded_of_lt (by decide) h
  have hrest : ∀ d ∈ (c :: rest).head?, d.isDigit = false := by simpa using hc
  rw [read_fraction_digits (List.ne_nil_of_length_pos (by omega))
    (fun _ => Text.isDigit_of_mem_padded) hrest, nanosOfDigits_padded h]

end FacetedSearch.Time
