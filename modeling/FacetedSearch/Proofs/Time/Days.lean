import FacetedSearch.Proofs.Time.Acceptance

/-!
# Days written as texts

A day is written with four digits for its year, or with a sign and at least as many, and so it is
a loosely written day. The layout of a day alone reads it back, in every year that can be read, as
the start of the day.
-/

namespace FacetedSearch

open Text (padded isBlank)

namespace Date

/-- The text of a year is one that can be read. -/
theorem exists_looseYear (year : Int) :
    ∃ loose : Time.LooseYear, loose.text = yearText year ∧ loose.value = year := by
  have hvalue (n : Nat) : Text.decimalValue (padded 4 n) = n := Text.decimalValue_padded 4 n
  by_cases hyear : 0 ≤ year ∧ year ≤ 9999
  · have hlength : (padded 4 year.toNat).length = 4 :=
      Time.length_padded_of_lt (by decide) (show year.toNat < 10000 by omega)
    refine ⟨.unsigned (padded 4 year.toNat) (fun _ => Text.isDigit_of_mem_padded)
      (by omega), ?_, ?_⟩
    · rw [yearText, if_pos hyear]
      rfl
    · rw [Time.LooseYear.value, hvalue]
      omega
  · have hne : padded 4 year.natAbs ≠ [] := by simp [padded, List.leftpad, Nat.toDigits_ne_nil]
    refine ⟨.signed (decide (year < 0)) (padded 4 year.natAbs)
      (fun _ => Text.isDigit_of_mem_padded) hne, ?_, ?_⟩
    · rw [yearText, if_neg hyear]
      simp [Time.LooseYear.text]
    · rw [Time.LooseYear.value, hvalue]
      by_cases hnegative : year < 0
      · simp only [hnegative, decide_true, if_true]
        omega
      · simp only [hnegative, decide_false, Bool.false_eq_true, if_false]
        omega

/-- The text of a day is a loosely written day that names it. -/
theorem exists_looseDay (date : Date) :
    ∃ loose : Time.LooseDay, loose.text = date.text ∧ loose.Names date := by
  obtain ⟨year, htext, hvalue⟩ := exists_looseYear date.year
  obtain ⟨hmonth, hday⟩ := date.length_padded
  let number (n : Nat) (h : (padded 2 n).length = 2) : Time.LooseNumber :=
    ⟨[], padded 2 n, by simp, fun _ => Text.isDigit_of_mem_padded, by omega⟩
  have hnumber (n : Nat) (h : (padded 2 n).length = 2) : (number n h).value = n :=
    Text.decimalValue_padded 2 n
  refine ⟨⟨year, number date.month hmonth, number date.day hday⟩, ?_, ?_⟩
  · simp only [Time.LooseDay.text, htext, number, Time.LooseNumber.text, Date.text,
      List.nil_append, List.append_assoc, List.cons_append]
  · exact ⟨hvalue.symm, (hnumber _ hmonth).symm, (hnumber _ hday).symm⟩

/-- A day begins with a visible character. -/
theorem isBlank_of_head?_text (date : Date) : ∀ c ∈ date.text.head?, isBlank c = false := by
  obtain ⟨first, rest, hyear, hvisible, -⟩ := exists_yearText_eq date.year
  simp [text, hyear, hvisible]

theorem trim_text (date : Date) : Text.trim date.text = date.text := by
  have hlast : ∀ c ∈ date.text.getLast?, isBlank c = false := by
    refine Text.isBlank_of_getLast?_append (List.cons_ne_nil _ _) (fun c hc => ?_) _
    rcases List.mem_cons.mp hc with rfl | hdigit
    · rfl
    · exact Text.isBlank_of_isDigit (Text.isDigit_of_mem_padded hdigit)
  have hsurrounded : Text.trim ([] ++ date.text ++ []) = date.text :=
    Text.trim_surrounded (by simp) (by simp) date.isBlank_of_head?_text hlast
  rwa [List.nil_append, List.append_nil] at hsurrounded

end Date

/-- A day is read back as its start, in every year that can be read. -/
theorem Time.readTimestamp_text {date : Date}
    (hyear : firstYear ≤ date.year ∧ date.year ≤ lastYear) :
    readTimestamp (String.ofList date.text) = some (.ofDay date) := by
  obtain ⟨day, htext, hnames⟩ := date.exists_looseDay
  have hinstant : (day.write {}).toInstant? = some (.ofDay date) := by
    have hread : firstYear ≤ day.year.value ∧ day.year.value ≤ lastYear := hnames.1 ▸ hyear
    refine Fields.toInstant?_eq_some_iff.mpr ⟨hread, date, hnames, day.timeInRange_write, ?_⟩
    rw [Instant.eq_iff]
    simp [Fields.toInstant, LooseDay.write, Instant.ofDay]
  have hlayout : dayLayout ∈ layouts := by simp [layouts]
  apply readTimestamp_of_readBy hlayout
  rw [String.toList_ofList, date.trim_text]
  exact (readBy_day_eq_some_iff date.isBlank_of_head?_text).mpr ⟨day, htext.symm, hinstant⟩

end FacetedSearch
