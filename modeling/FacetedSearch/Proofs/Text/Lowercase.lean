import FacetedSearch.Text.Blank
import FacetedSearch.Text.Lowercase
import Mathlib.Data.List.Basic

/-!
# What lower case leaves alone

A character is kept if it is its own lower-case form, wherever it stands, and stands in that of no
other character. Blank characters and double quotes are kept, as they have no letter case. So
a text of such marks is recognised before as well as after it is lower-cased, and what is kept
stands as often, and at the same end, in a text and in its lower-case form.
-/

namespace FacetedSearch.Text

/-- A blank character or a double quote. -/
def IsMark (c : Char) : Prop := isBlank c = true ∨ c = '"'

/-- The code points of the marks, as ranges with their ends included. -/
def markRanges : List (Nat × Nat) := [
  (0x9, 0xD), (0x20, 0x20), (0x22, 0x22), (0x85, 0x85), (0xA0, 0xA0), (0x1680, 0x1680),
  (0x2000, 0x200A), (0x2028, 0x2029), (0x202F, 0x202F), (0x205F, 0x205F), (0x3000, 0x3000)
]

/-- The marks are the characters in the ranges. -/
theorem isMark_iff (c : Char) :
    IsMark c ↔ ∃ range ∈ markRanges, range.1 ≤ c.toNat ∧ c.toNat ≤ range.2 := by
  have hquote : c = '"' ↔ c.toNat = 0x22 := ⟨fun h => h ▸ rfl, fun h => Char.toNat_inj.mp h⟩
  simp only [IsMark, isBlank, markRanges, hquote, Bool.or_eq_true, Bool.and_eq_true,
    decide_eq_true_eq, beq_iff_eq, List.mem_cons, List.not_mem_nil, or_false, exists_eq_or_imp,
    exists_eq_left]
  omega

/-! ### The table of letter case -/

/-- A run of capital letters and their lower-case forms, all of them characters, avoid a range. -/
def CaseRun.Avoids (run : CaseRun) (range : Nat × Nat) : Prop :=
  (run.last < range.1 ∨ range.2 < run.first) ∧
    (run.target + (run.last - run.first) < range.1 ∨ range.2 < run.target)

instance (run : CaseRun) (range : Nat × Nat) : Decidable (run.Avoids range) :=
  inferInstanceAs (Decidable (_ ∧ _))

/-- No capital letter and no lower-case form is a mark. -/
theorem caseRuns_avoid_marks : ∀ run ∈ caseRuns, ∀ range ∈ markRanges, run.Avoids range := by
  have hall : (caseRuns.all fun run => markRanges.all fun range =>
      (Nat.blt run.last range.1 || Nat.blt range.2 run.first) &&
        (Nat.blt (run.target + (run.last - run.first)) range.1 ||
          Nat.blt range.2 run.target)) = true := by
    decide +kernel
  simpa only [CaseRun.Avoids, List.all_eq_true, Bool.and_eq_true, Bool.or_eq_true, Nat.blt_eq]
    using hall

/-- Every lower-case form is the code point of a character. -/
theorem caseRuns_valid : ∀ run ∈ caseRuns,
    run.target + (run.last - run.first) < 0xD800 ∨
      0xDFFF < run.target ∧ run.target + (run.last - run.first) < 0x110000 := by
  decide +kernel

/-- The code point of the lower-case form of a letter of the table. -/
theorem toNat_lower {run : CaseRun} (hrun : run ∈ caseRuns) {code : Nat}
    (hcovers : run.covers code = true) : (Char.ofNat (run.lower code)).toNat = run.lower code := by
  have hvalid := caseRuns_valid run hrun
  simp only [CaseRun.covers, Bool.and_eq_true, decide_eq_true_eq] at hcovers
  have hchar : (run.lower code).isValidChar := by
    simp only [Nat.isValidChar, CaseRun.lower]
    omega
  rw [Char.ofNat, dif_pos hchar]
  rfl

/-! ### Characters -/

/-- A character is the dotted capital letter, outside the table or a letter of one of its runs. -/
theorem lowerChar_cases (c : Char) :
    (c = 'İ' ∧ lowerChar c = ['i', '\u0307']) ∨
      ((∀ run ∈ caseRuns, run.covers c.toNat = false) ∧ lowerChar c = [c]) ∨
      ∃ run ∈ caseRuns, ∃ d, run.covers c.toNat = true ∧ lowerChar c = [d] ∧
        d.toNat = run.lower c.toNat := by
  by_cases hdotted : c = 'İ'
  · exact .inl ⟨hdotted, if_pos hdotted⟩
  · cases hfind : caseRuns.find? (·.covers c.toNat) with
    | none =>
      have hnone := List.find?_eq_none.mp hfind
      refine .inr (.inl ⟨fun run hrun => eq_false_of_ne_true (hnone run hrun), ?_⟩)
      rw [lowerChar, if_neg hdotted, hfind]
    | some run =>
      have hrun := List.mem_of_find?_eq_some hfind
      have hcovers := List.find?_some hfind
      refine .inr (.inr ⟨run, hrun, _, hcovers, ?_, toNat_lower hrun hcovers⟩)
      rw [lowerChar, if_neg hdotted, hfind]

/-- A character outside the table is its own lower-case form. -/
theorem lowerChar_of_not_covers {c : Char} (hdotted : c ≠ 'İ')
    (h : ∀ run ∈ caseRuns, run.covers c.toNat = false) : lowerChar c = [c] := by
  rcases lowerChar_cases c with ⟨hc, -⟩ | ⟨-, hform⟩ | ⟨run, hrun, -, hcovers, -⟩
  · exact absurd hc hdotted
  · exact hform
  · exact absurd ((h run hrun).symm.trans hcovers) Bool.false_ne_true

/-- The lower-case form of a character between two texts. -/
def lowerBetween (before : List Char) (c : Char) (after : List Char) : List Char :=
  if c = 'Σ' then [if endsWord before after then 'ς' else 'σ'] else lowerChar c

variable {before after text : List Char} {c d : Char}

theorem lowerBetween_ne_nil : lowerBetween before c after ≠ [] := by
  unfold lowerBetween
  split
  · exact List.cons_ne_nil _ _
  · rcases lowerChar_cases c with ⟨-, hform⟩ | ⟨-, hform⟩ | ⟨-, -, _, -, hform, -⟩ <;>
      exact hform ▸ List.cons_ne_nil _ _

/-- A small sigma is written for a capital one, and any other character without its neighbours. -/
theorem mem_lowerBetween_cases (h : d ∈ lowerBetween before c after) :
    (c = 'Σ' ∧ (d = 'ς' ∨ d = 'σ')) ∨ (c ≠ 'Σ' ∧ d ∈ lowerChar c) := by
  unfold lowerBetween at h
  split at h
  · next hsigma =>
    refine .inl ⟨hsigma, ?_⟩
    obtain rfl := List.mem_singleton.mp h
    split
    · exact .inl rfl
    · exact .inr rfl
  · next hsigma => exact .inr ⟨hsigma, h⟩

/-- A character that lower-casing leaves as it is, wherever it stands. -/
def IsLower (c : Char) : Prop := c ≠ 'Σ' ∧ lowerChar c = [c]

theorem lowerBetween_of_isLower (hc : IsLower c) : lowerBetween before c after = [c] := by
  rw [lowerBetween, if_neg hc.1, hc.2]

/-- A character that is its own lower-case form and stands in that of no other character. -/
structure IsKept (d : Char) : Prop where
  isLower : IsLower d
  eq_of_mem {before after : List Char} {c : Char} (h : d ∈ lowerBetween before c after) : c = d

/-! ### Marks -/

theorem not_isMark_of_toNat (h : ∀ range ∈ markRanges,
    c.toNat < range.1 ∨ range.2 < c.toNat) : ¬ IsMark c := by
  rw [isMark_iff]
  rintro ⟨range, hrange, hfirst, hlast⟩
  have := h range hrange
  omega

/-- A mark is no letter of the table. -/
theorem not_covers_of_isMark {run : CaseRun} (hrun : run ∈ caseRuns) (hc : IsMark c) :
    run.covers c.toNat = false := by
  obtain ⟨range, hrange, hfirst, hlast⟩ := (isMark_iff c).mp hc
  have havoids := (caseRuns_avoid_marks run hrun range hrange).1
  apply Bool.eq_false_iff.mpr
  intro hcovers
  simp only [CaseRun.covers, Bool.and_eq_true, decide_eq_true_eq] at hcovers
  omega

/-- The lower-case form of a letter of the table is no mark. -/
theorem not_isMark_lower {run : CaseRun} (hrun : run ∈ caseRuns)
    (hcovers : run.covers c.toNat = true) (hform : d.toNat = run.lower c.toNat) : ¬ IsMark d := by
  rw [isMark_iff, hform]
  rintro ⟨range, hrange, hfirst, hlast⟩
  have havoids := (caseRuns_avoid_marks run hrun range hrange).2
  simp only [CaseRun.covers, Bool.and_eq_true, decide_eq_true_eq] at hcovers
  simp only [CaseRun.lower] at hfirst hlast
  omega

/-- The character of which a mark is the lower-case form is the mark itself. -/
theorem eq_of_isMark_of_mem_lowerChar (hd : IsMark d) (h : d ∈ lowerChar c) : c = d := by
  rcases lowerChar_cases c with ⟨-, hform⟩ | ⟨-, hform⟩ | ⟨run, hrun, e, hcovers, hform, he⟩
  · rw [hform] at h
    rcases List.mem_cons.mp h with rfl | h
    · exact absurd hd (not_isMark_of_toNat (by decide))
    · obtain rfl := List.mem_singleton.mp h
      exact absurd hd (not_isMark_of_toNat (by decide))
  · rw [hform] at h
    exact (List.mem_singleton.mp h).symm
  · rw [hform] at h
    obtain rfl := List.mem_singleton.mp h
    exact absurd hd (not_isMark_lower hrun hcovers he)

/-- A mark is its own lower-case form and that of no other character. -/
theorem IsMark.isKept (hc : IsMark c) : IsKept c where
  isLower := by
    have hne (d : Char) (hd : ¬ IsMark d) : c ≠ d := fun h => hd (h ▸ hc)
    have hdotted : c ≠ 'İ' := hne _ (not_isMark_of_toNat (by decide))
    exact ⟨hne _ (not_isMark_of_toNat (by decide)),
      lowerChar_of_not_covers hdotted fun run hrun => not_covers_of_isMark hrun hc⟩
  eq_of_mem h := by
    rcases mem_lowerBetween_cases h with ⟨-, rfl | rfl⟩ | ⟨-, h⟩
    · exact absurd hc (not_isMark_of_toNat (by decide))
    · exact absurd hc (not_isMark_of_toNat (by decide))
    · exact eq_of_isMark_of_mem_lowerChar hc h

/-! ### Texts -/

theorem lowerAfter_cons (before : List Char) (c : Char) (rest : List Char) :
    lowerAfter before (c :: rest) = lowerBetween before c rest ++ lowerAfter (c :: before) rest :=
  rfl

/-- A text of characters that are left as they are is its own lower-case form. -/
theorem lowerAfter_of_isLower (h : ∀ c ∈ text, IsLower c) : lowerAfter before text = text := by
  induction text generalizing before with
  | nil => rfl
  | cons c rest ih =>
    obtain ⟨hc, hrest⟩ := List.forall_mem_cons.mp h
    rw [lowerAfter_cons, lowerBetween_of_isLower hc, ih hrest]
    rfl

/-- A text whose lower-case form is made of characters that are kept is that form. -/
theorem lowerAfter_eq_of_isKept (h : ∀ d ∈ lowerAfter before text, IsKept d) :
    lowerAfter before text = text := by
  refine lowerAfter_of_isLower ?_
  induction text generalizing before with
  | nil => simp
  | cons c rest ih =>
    rw [lowerAfter_cons, List.forall_mem_append] at h
    obtain ⟨hform, hrest⟩ := h
    obtain ⟨d, hd⟩ := List.exists_mem_of_ne_nil _ (lowerBetween_ne_nil (c := c))
    have hkept := hform d hd
    exact List.forall_mem_cons.mpr ⟨hkept.eq_of_mem hd ▸ hkept.isLower, ih hrest⟩

/-- A text of marks is recognised before it is lower-cased. -/
theorem lower_eq_iff_of_marks {marks : List Char} (h : ∀ c ∈ marks, IsMark c) :
    lower text = marks ↔ text = marks := by
  have hkept : ∀ c ∈ marks, IsKept c := fun c hc => (h c hc).isKept
  constructor
  · rintro rfl
    exact (lowerAfter_eq_of_isKept hkept).symm
  · rintro rfl
    exact lowerAfter_of_isLower fun c hc => (hkept c hc).isLower

/-- Lower-casing keeps the number of each character that is kept. -/
theorem count_lowerAfter (hd : IsKept d) : (lowerAfter before text).count d = text.count d := by
  induction text generalizing before with
  | nil => rfl
  | cons c rest ih =>
    rw [lowerAfter_cons, List.count_append, ih, List.count_cons, Nat.add_comm]
    congr 1
    by_cases hc : c = d
    · rw [hc, lowerBetween_of_isLower hd.isLower]
      simp
    · rw [if_neg (by simpa using hc)]
      exact List.count_eq_zero.mpr fun hmem => hc (hd.eq_of_mem hmem)

/-- A character that is kept is in a text exactly if it is in its lower-case form. -/
theorem mem_lowerAfter_iff (hd : IsKept d) : d ∈ lowerAfter before text ↔ d ∈ text := by
  rw [← List.count_pos_iff, count_lowerAfter hd, List.count_pos_iff]

/-- A lower-cased text begins with a character that is kept if the text does. -/
theorem head?_lowerAfter_eq_some_iff (hd : IsKept d) :
    (lowerAfter before text).head? = some d ↔ text.head? = some d := by
  cases text with
  | nil => rfl
  | cons c rest =>
    rw [lowerAfter_cons, List.head?_append_of_ne_nil _ lowerBetween_ne_nil, List.head?_cons,
      Option.some.injEq]
    constructor
    · intro h
      exact hd.eq_of_mem (List.mem_of_mem_head? h)
    · rintro rfl
      rw [lowerBetween_of_isLower hd.isLower]
      rfl

/-- A lower-cased text ends with a character that is kept if the text does. -/
theorem getLast?_lowerAfter_eq_some_iff (hd : IsKept d) :
    (lowerAfter before text).getLast? = some d ↔ text.getLast? = some d := by
  induction text generalizing before with
  | nil => rfl
  | cons c rest ih =>
    rw [lowerAfter_cons]
    cases rest with
    | nil =>
      rw [lowerAfter, List.append_nil, List.getLast?_singleton, Option.some.injEq]
      constructor
      · intro h
        exact hd.eq_of_mem (List.mem_of_getLast? h)
      · rintro rfl
        rw [lowerBetween_of_isLower hd.isLower]
        rfl
    | cons c' rest =>
      have hne : lowerAfter (c :: before) (c' :: rest) ≠ [] := by
        rw [lowerAfter_cons]
        exact List.append_ne_nil_of_left_ne_nil lowerBetween_ne_nil _
      rw [List.getLast?_append_of_ne_nil _ hne, ih, List.getLast?_cons_cons]

end FacetedSearch.Text
