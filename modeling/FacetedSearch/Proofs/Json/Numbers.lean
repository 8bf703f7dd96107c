import FacetedSearch.Json.Token
import FacetedSearch.Json.Written

/-!
# Numbers of JSON text

A written number is scanned to its end, if what follows it could not belong to it. Each
part of a number is skipped with any text behind it that does not go on with that part.
-/

namespace FacetedSearch.Json

/-- Whether a character after a number could belong to it. -/
def continuesNumber (c : Char) : Bool := c.isDigit || c == '.' || c == 'e' || c == 'E'

/-- Nothing at the start of the text could belong to a number before it. -/
def EndsNumber : List Char → Prop
  | [] => True
  | c :: _ => continuesNumber c = false

theorem EndsNumber.head?_ne {rest : List Char} (h : EndsNumber rest) :
    ∀ c ∈ rest.head?, c.isDigit = false ∧ c ≠ '.' ∧ c ≠ 'e' ∧ c ≠ 'E' := by
  rintro c hc
  cases rest with
  | nil => simp at hc
  | cons d rest =>
    obtain rfl : d = c := by simpa using hc
    simpa [EndsNumber, continuesNumber, and_assoc] using h

/-! ### Parts -/

theorem skipDigits?_append {digits rest : List Char} (h : AreDigits digits)
    (hrest : ∀ c ∈ rest.head?, c.isDigit = false) : skipDigits? (digits ++ rest) = some rest := by
  obtain ⟨hne, hdigits⟩ := h
  obtain ⟨c, digits, rfl⟩ := List.exists_cons_of_ne_nil hne
  obtain ⟨hc, hdigits⟩ := List.forall_mem_cons.mp hdigits
  rw [List.cons_append, skipDigits?, if_pos hc, List.dropWhile_append_of_pos hdigits]
  cases rest with
  | nil => rfl
  | cons d rest => rw [List.dropWhile_cons_of_neg (by simp [hrest d rfl])]

/-- A number has a digit after its sign. -/
theorem IsWhole.exists_digit {whole : List Char} (h : IsWhole whole) :
    ∃ c rest, whole = c :: rest ∧ c.isDigit = true := by
  cases h with
  | zero => exact ⟨'0', [], rfl, rfl⟩
  | digits h =>
    obtain ⟨c, rest, rfl⟩ := List.exists_cons_of_ne_nil h.1
    exact ⟨c, rest, rfl, h.2 c List.mem_cons_self⟩

theorem skipWhole?_append {whole rest : List Char} (h : IsWhole whole)
    (hrest : ∀ c ∈ rest.head?, c.isDigit = false) : skipWhole? (whole ++ rest) = some rest := by
  cases h with
  | zero => rfl
  | digits h hzero =>
    have hskip := skipDigits?_append h hrest
    obtain ⟨c, digits, rfl⟩ := List.exists_cons_of_ne_nil h.1
    have hc : c ≠ '0' := by simpa using hzero
    rwa [List.cons_append, skipWhole?]
    simp [hc]

theorem skipFraction?_append {fraction rest : List Char} (h : IsFraction fraction)
    (hrest : ∀ c ∈ rest.head?, c.isDigit = false ∧ c ≠ '.') :
    skipFraction? (fraction ++ rest) = some rest := by
  cases h with
  | missing =>
    rw [List.nil_append]
    cases rest with
    | nil => rfl
    | cons c rest =>
      rw [skipFraction?]
      simp [(hrest c rfl).2]
  | digits h =>
    rw [List.cons_append, skipFraction?]
    exact skipDigits?_append h fun c hc => (hrest c hc).1

theorem skipExponent?_append {exponent rest : List Char} (h : IsExponent exponent)
    (hrest : EndsNumber rest) : skipExponent? (exponent ++ rest) = some rest := by
  have hhead := hrest.head?_ne
  cases h with
  | missing =>
    rw [List.nil_append]
    cases rest with
    | nil => rfl
    | cons c rest =>
      obtain ⟨-, -, he, hE⟩ := hhead c rfl
      rw [skipExponent?] <;> simp [he, hE]
  | digits hletter hsign h =>
    have hskip := skipDigits?_append h fun c hc => (hhead c hc).1
    -- without a sign the first digit has to be told from one
    obtain ⟨d, digits, rfl⟩ := List.exists_cons_of_ne_nil h.1
    have hd := h.2 d List.mem_cons_self
    have hplus : d ≠ '+' := by rintro rfl; simp at hd
    have hminus : d ≠ '-' := by rintro rfl; simp at hd
    rcases hletter with rfl | rfl <;> rcases hsign with rfl | rfl | rfl <;>
      simp_all [skipExponent?]

/-! ### Whole numbers -/

/-- A fraction does not go on with the digits before it. -/
theorem IsFraction.head?_append {fraction rest : List Char} (h : IsFraction fraction)
    (hrest : ∀ c ∈ rest.head?, c.isDigit = false) :
    ∀ c ∈ (fraction ++ rest).head?, c.isDigit = false := by
  cases h with
  | missing => exact hrest
  | digits => rintro c ⟨⟩; rfl

/-- An exponent does not go on with the digits or the fraction before it. -/
theorem IsExponent.head?_append {exponent rest : List Char} (h : IsExponent exponent)
    (hrest : EndsNumber rest) :
    ∀ c ∈ (exponent ++ rest).head?, c.isDigit = false ∧ c ≠ '.' := by
  cases h with
  | missing => exact fun c hc => ⟨(hrest.head?_ne c hc).1, (hrest.head?_ne c hc).2.1⟩
  | digits hletter => rcases hletter with rfl | rfl <;> rintro c ⟨⟩ <;> decide

theorem skipSign_append {sign whole rest : List Char} (hsign : sign = [] ∨ sign = ['-'])
    (hwhole : IsWhole whole) : skipSign (sign ++ (whole ++ rest)) = whole ++ rest := by
  obtain ⟨c, digits, rfl, hc⟩ := hwhole.exists_digit
  rcases hsign with rfl | rfl
  · have hminus : c ≠ '-' := by rintro rfl; simp at hc
    rw [List.nil_append, List.cons_append, skipSign]
    simp [hminus]
  · rfl

theorem skipNumber?_append {text rest : List Char} (h : IsNumber text) (hrest : EndsNumber rest) :
    skipNumber? (text ++ rest) = some rest := by
  obtain ⟨hsign, hwhole, hfraction, hexponent⟩ := h
  have hend := hexponent.head?_append hrest
  simp only [skipNumber?, List.append_assoc, skipSign_append hsign hwhole,
    skipWhole?_append hwhole (hfraction.head?_append fun c hc => (hend c hc).1),
    Option.bind_some, skipFraction?_append hfraction hend, skipExponent?_append hexponent hrest]

/-- A number starts with a digit or a minus sign. -/
theorem IsNumber.exists_cons {text : List Char} (h : IsNumber text) :
    ∃ c rest, text = c :: rest ∧ (c = '-' ∨ c.isDigit = true) := by
  obtain ⟨hsign, hwhole, -, -⟩ := h
  obtain ⟨c, digits, rfl, hc⟩ := hwhole.exists_digit
  rcases hsign with rfl | rfl
  · exact ⟨c, _, rfl, .inr hc⟩
  · exact ⟨'-', _, rfl, .inl rfl⟩

theorem scanToken_number {text rest : List Char} (h : IsNumber text) (hrest : EndsNumber rest) :
    scanToken (text ++ rest) = some (.plain, rest) := by
  have hskip := skipNumber?_append h hrest
  obtain ⟨c, text, rfl, hc⟩ := h.exists_cons
  rw [List.cons_append] at hskip ⊢
  -- no other token starts with a sign or a digit
  unfold scanToken
  split
  case h_11 => rw [hskip]; rfl
  all_goals simp_all
end FacetedSearch.Json
