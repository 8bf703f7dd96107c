import FacetedSearch.Text.Decimal

/-!
# The order of written numbers

Numbers of the same width compare as their digits do, character by character: the first
digit in which they differ decides, whatever comes after it. This holds with texts behind the
digits too, which are compared if the numbers are equal.
-/

namespace FacetedSearch.Text

variable {ds es : List Char}

theorem toNat_of_isDigit {c : Char} (h : c.isDigit = true) : 48 ≤ c.toNat ∧ c.toNat ≤ 57 := by
  simpa [Char.isDigit, UInt32.le_iff_toNat_le] using h

/-- A number that begins with less is less, whatever digits follow. -/
theorem ofDigitChars_lt_of_lt (hlength : ds.length = es.length)
    (hds : ∀ c ∈ ds, c.isDigit = true) {m n : Nat} (h : m < n) :
    Nat.ofDigitChars 10 ds m < Nat.ofDigitChars 10 es n := by
  induction ds generalizing es m n with
  | nil =>
    obtain rfl := List.eq_nil_of_length_eq_zero hlength.symm
    exact h
  | cons c ds ih =>
    cases es with
    | nil => simp at hlength
    | cons d es =>
      obtain ⟨hc, hds⟩ := List.forall_mem_cons.mp hds
      have hcode := toNat_of_isDigit hc
      have hzero : '0'.toNat = 48 := rfl
      rw [Nat.ofDigitChars_cons, Nat.ofDigitChars_cons]
      exact ih (Nat.succ.inj hlength) hds (by omega)

/-- So many digits denote a number below that power of ten. -/
theorem decimalValue_lt (hds : ∀ c ∈ ds, c.isDigit = true) :
    decimalValue ds < Nat.pow 10 ds.length := by
  have hlt : decimalValue ds < Nat.ofDigitChars 10 (List.replicate ds.length '0') 1 :=
    ofDigitChars_lt_of_lt (by simp) hds (by decide)
  rwa [Nat.ofDigitChars_replicate_zero, Nat.mul_one] at hlt

/-- Texts that begin with numbers of one width are in the order of the numbers first. -/
theorem digits_append_lt_iff (hlength : ds.length = es.length)
    (hds : ∀ c ∈ ds, c.isDigit = true) (hes : ∀ c ∈ es, c.isDigit = true) {xs ys : List Char} :
    ds ++ xs < es ++ ys ↔
      decimalValue ds < decimalValue es ∨ decimalValue ds = decimalValue es ∧ xs < ys := by
  -- The digits read so far are the same on both sides, so the induction is on what is left.
  suffices h : ∀ m, ds ++ xs < es ++ ys ↔ Nat.ofDigitChars 10 ds m < Nat.ofDigitChars 10 es m ∨
      Nat.ofDigitChars 10 ds m = Nat.ofDigitChars 10 es m ∧ xs < ys from h 0
  induction ds generalizing es with
  | nil =>
    obtain rfl := List.eq_nil_of_length_eq_zero hlength.symm
    simp
  | cons c ds ih =>
    cases es with
    | nil => simp at hlength
    | cons d es =>
      intro m
      have hlength : ds.length = es.length := Nat.succ.inj hlength
      obtain ⟨hc, hds⟩ := List.forall_mem_cons.mp hds
      obtain ⟨hd, hes⟩ := List.forall_mem_cons.mp hes
      have hcode := toNat_of_isDigit hc
      have hcode' := toNat_of_isDigit hd
      have hzero : '0'.toNat = 48 := rfl
      have hless : c < d ↔ c.toNat < d.toNat := UInt32.lt_iff_toNat_lt
      have hsame : c = d ↔ c.toNat = d.toNat := Char.toNat_inj.symm
      rw [List.cons_append, List.cons_append, List.cons_lt_cons_iff, Nat.ofDigitChars_cons,
        Nat.ofDigitChars_cons, hless, hsame]
      rcases Nat.lt_trichotomy c.toNat d.toNat with hlt | heq | hgt
      · have hvalue := ofDigitChars_lt_of_lt hlength hds
          (show 10 * m + (c.toNat - '0'.toNat) < 10 * m + (d.toNat - '0'.toNat) by omega)
        simp only [hlt, hvalue, true_or]
      · rw [heq, ih hlength hds hes (10 * m + (d.toNat - '0'.toNat))]
        simp only [Nat.lt_irrefl, true_and, false_or]
      · have hvalue := ofDigitChars_lt_of_lt hlength.symm hes
          (show 10 * m + (d.toNat - '0'.toNat) < 10 * m + (c.toNat - '0'.toNat) by omega)
        omega

/-- The same for numbers written with a fixed width before the same character. -/
theorem padded_append_lt_iff {width m n : Nat} (hm : (padded width m).length = width)
    (hn : (padded width n).length = width) (mark : Char) {xs ys : List Char} :
    padded width m ++ mark :: xs < padded width n ++ mark :: ys ↔ m < n ∨ m = n ∧ xs < ys := by
  have hmark : mark :: xs < mark :: ys ↔ xs < ys := by
    rw [List.cons_lt_cons_iff]
    have hirrefl : ¬ mark < mark := Char.lt_irrefl mark
    simp only [hirrefl, true_and, false_or]
  rw [digits_append_lt_iff (hm.trans hn.symm) (fun _ => isDigit_of_mem_padded)
    (fun _ => isDigit_of_mem_padded), decimalValue_padded, decimalValue_padded, hmark]

/-- Numbers of a fixed width before the same character are written alike only if they are equal. -/
theorem padded_append_eq_iff {width m n : Nat} (hm : (padded width m).length = width)
    (hn : (padded width n).length = width) (mark : Char) {xs ys : List Char} :
    padded width m ++ mark :: xs = padded width n ++ mark :: ys ↔ m = n ∧ xs = ys := by
  constructor
  · intro h
    obtain ⟨hdigits, hrest⟩ := List.append_inj h (hm.trans hn.symm)
    have hvalue := congrArg decimalValue hdigits
    rw [decimalValue_padded, decimalValue_padded] at hvalue
    exact ⟨hvalue, (List.cons.inj hrest).2⟩
  · rintro ⟨rfl, rfl⟩
    rfl

end FacetedSearch.Text
