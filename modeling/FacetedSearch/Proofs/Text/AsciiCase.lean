import FacetedSearch.Proofs.Text.Lowercase
import Mathlib.Data.List.Basic

/-!
# Lower case and ASCII

An ASCII character has one lower-case form, which is ASCII again. Of all ASCII characters only the
letters `i` and `k` are also made from characters outside ASCII, the capital I with a dot above and
the kelvin sign. So digits, signs and all other letters of a lower-cased text show what was
typed, and signs stand where they stood.
-/

namespace FacetedSearch.Text

/-- A character of the first 128. -/
def IsAscii (c : Char) : Prop := c.toNat < 128

instance (c : Char) : Decidable (IsAscii c) := inferInstanceAs (Decidable (_ < _))

/-- An ASCII character that is not made from a character outside ASCII. -/
def IsPlain (c : Char) : Prop := IsAscii c ∧ c ≠ 'i' ∧ c ≠ 'k'

/-- An ASCII character that is no letter. -/
def IsSign (c : Char) : Prop := IsAscii c ∧ c.isAlpha = false

/-- A statement about the ASCII characters is checked one by one. -/
theorem forall_isAscii {p : Char → Prop} (h : ∀ code < 128, p (Char.ofNat code)) {c : Char}
    (hc : IsAscii c) : p c := by
  have hcode := h c.toNat hc
  rwa [Char.ofNat_toNat] at hcode

theorem IsSign.isPlain {c : Char} (h : IsSign c) : IsPlain c := by
  refine ⟨h.1, ?_, ?_⟩
  · rintro rfl
    exact absurd h.2 (by decide)
  · rintro rfl
    exact absurd h.2 (by decide)

/-! ### Letters of ASCII -/

/-- The test for a capital letter, as it stands in the definition of lower case. -/
theorem isUpper_iff_val (c : Char) : c.isUpper = true ↔ c.val ≥ 'A'.val ∧ c.val ≤ 'Z'.val :=
  decide_eq_true_iff

theorem isUpper_iff (c : Char) : c.isUpper = true ↔ 65 ≤ c.toNat ∧ c.toNat ≤ 90 := by
  rw [isUpper_iff_val]
  simp [UInt32.le_iff_toNat_le]

theorem isAlpha_iff (c : Char) :
    c.isAlpha = true ↔ 65 ≤ c.toNat ∧ c.toNat ≤ 90 ∨ 97 ≤ c.toNat ∧ c.toNat ≤ 122 := by
  change (c.isUpper || (decide (c.val ≥ 'a'.val) && decide (c.val ≤ 'z'.val))) = true ↔ _
  rw [Bool.or_eq_true, isUpper_iff]
  simp [UInt32.le_iff_toNat_le]

theorem isAlpha_of_isUpper {c : Char} (hc : c.isUpper = true) : c.isAlpha = true :=
  (isAlpha_iff c).mpr (.inl ((isUpper_iff c).mp hc))

theorem isAscii_of_isAlpha {c : Char} (hc : c.isAlpha = true) : IsAscii c := by
  have hcode := (isAlpha_iff c).mp hc
  rw [IsAscii]
  omega

theorem toLower_of_not_isUpper {c : Char} (hc : c.isUpper ≠ true) : c.toLower = c :=
  dif_neg (mt (isUpper_iff_val c).mpr hc)

theorem toNat_toLower {c : Char} (hc : c.isUpper = true) : c.toLower.toNat = c.toNat + 32 := by
  have hsmall : c.toNat + 32 < 4294967296 := by
    have hbounds := (isUpper_iff c).mp hc
    omega
  have hform : c.toLower.val = c.val + 32 :=
    congrArg Char.val (dif_pos ((isUpper_iff_val c).mp hc))
  rw [Char.toNat, hform, UInt32.toNat_add]
  exact Nat.mod_eq_of_lt hsmall

theorem isAlpha_toLower {c : Char} (hc : c.isUpper = true) : c.toLower.isAlpha = true := by
  have hbounds := (isUpper_iff c).mp hc
  rw [isAlpha_iff, toNat_toLower hc]
  omega

/-- Only a sign has a sign as its lower-case form. -/
theorem eq_of_toLower_eq {c d : Char} (hd : IsSign d) (h : c.toLower = d) : c = d := by
  by_cases hupper : c.isUpper = true
  · have hletter := isAlpha_toLower hupper
    rw [h, hd.2] at hletter
    exact absurd hletter Bool.false_ne_true
  · rw [← h, toLower_of_not_isUpper hupper]

/-! ### Characters -/

/-- The capital letters of ASCII, which come first in the table. -/
def asciiRun : CaseRun := ⟨0x41, 0x5A, 1, 0x61⟩

theorem caseRuns_eq_cons : caseRuns = asciiRun :: caseRuns.tail := rfl

/-- The other runs, and their forms, lie outside ASCII, but for the form of the kelvin sign. -/
theorem caseRuns_tail_outside_ascii : ∀ run ∈ caseRuns.tail, 128 ≤ run.first ∧
    (128 ≤ run.target ∨ run.first = run.last ∧ run.target = 'k'.toNat) := by
  decide +kernel

theorem eq_asciiRun_or_mem_tail {run : CaseRun} (hrun : run ∈ caseRuns) :
    run = asciiRun ∨ run ∈ caseRuns.tail :=
  List.mem_cons.mp (caseRuns_eq_cons ▸ hrun)

theorem covers_asciiRun (c : Char) : asciiRun.covers c.toNat = c.isUpper := by
  rw [Bool.eq_iff_iff, isUpper_iff]
  simp only [CaseRun.covers, Bool.and_eq_true, decide_eq_true_eq, beq_iff_eq]
  simp only [asciiRun, Nat.mod_one, and_true]

theorem lowerChar_of_isAscii {c : Char} (hc : IsAscii c) : lowerChar c = [c.toLower] := by
  rcases lowerChar_cases c with ⟨rfl, -⟩ | ⟨hnone, hform⟩ | ⟨run, hrun, d, hcovers, hform, hd⟩
  · exact absurd hc (by decide)
  · have hupper : c.isUpper ≠ true := by
      rw [← covers_asciiRun, hnone asciiRun (caseRuns_eq_cons ▸ List.mem_cons_self)]
      exact Bool.false_ne_true
    rw [hform, toLower_of_not_isUpper hupper]
  · rcases eq_asciiRun_or_mem_tail hrun with rfl | hlater
    · have hupper : c.isUpper = true := (covers_asciiRun c).symm.trans hcovers
      have hbounds := (isUpper_iff c).mp hupper
      have hlower : d.toNat = c.toLower.toNat := by
        rw [hd, toNat_toLower hupper]
        simp only [asciiRun, CaseRun.lower]
        omega
      rw [hform, Char.toNat_inj.mp hlower]
    · have hfirst := (caseRuns_tail_outside_ascii run hlater).1
      simp only [CaseRun.covers, Bool.and_eq_true, decide_eq_true_eq] at hcovers
      rw [IsAscii] at hc
      omega

/-- A plain character is the lower-case form of ASCII characters only. -/
theorem isAscii_of_mem_lowerChar {c d : Char} (hd : d ∈ lowerChar c) (hplain : IsPlain d) :
    IsAscii c := by
  rcases lowerChar_cases c with ⟨-, hform⟩ | ⟨-, hform⟩ | ⟨run, hrun, e, hcovers, hform, he⟩
  · rw [hform] at hd
    rcases List.mem_cons.mp hd with rfl | hd
    · exact absurd rfl hplain.2.1
    · rw [List.mem_singleton.mp hd] at hplain
      exact absurd hplain.1 (by decide)
  · rw [hform] at hd
    exact List.mem_singleton.mp hd ▸ hplain.1
  · rw [hform] at hd
    obtain rfl := List.mem_singleton.mp hd
    rcases eq_asciiRun_or_mem_tail hrun with rfl | hlater
    · exact isAscii_of_isAlpha (isAlpha_of_isUpper ((covers_asciiRun c).symm.trans hcovers))
    · have hnot : run.lower c.toNat ≠ 'k'.toNat := by
        rw [← he]
        exact fun h => hplain.2.2 (Char.toNat_inj.mp h)
      have hascii : run.lower c.toNat < 128 := he ▸ hplain.1
      have hruns := (caseRuns_tail_outside_ascii run hlater).2
      simp only [CaseRun.covers, Bool.and_eq_true, decide_eq_true_eq] at hcovers
      simp only [CaseRun.lower] at hnot hascii
      omega

variable {before after : List Char} {c d : Char}

theorem ne_sigma_of_isAscii (hc : IsAscii c) : c ≠ 'Σ' := by
  rintro rfl
  exact absurd hc (by decide)

theorem lowerBetween_of_isAscii (hc : IsAscii c) : lowerBetween before c after = [c.toLower] := by
  rw [lowerBetween, if_neg (ne_sigma_of_isAscii hc), lowerChar_of_isAscii hc]

theorem isAscii_of_mem_lowerBetween (hd : d ∈ lowerBetween before c after) (hplain : IsPlain d) :
    IsAscii c := by
  rcases mem_lowerBetween_cases hd with ⟨-, rfl | rfl⟩ | ⟨-, hd⟩
  · exact absurd hplain.1 (by decide)
  · exact absurd hplain.1 (by decide)
  · exact isAscii_of_mem_lowerChar hd hplain

/-- A sign is its own lower-case form. -/
theorem isLower_of_isSign (hd : IsSign d) : IsLower d := by
  have hupper : d.isUpper ≠ true := fun h =>
    Bool.false_ne_true (hd.2.symm.trans (isAlpha_of_isUpper h))
  refine ⟨ne_sigma_of_isAscii hd.1, ?_⟩
  rw [lowerChar_of_isAscii hd.1, toLower_of_not_isUpper hupper]

/-- A sign is the lower-case form of itself only. -/
theorem eq_of_mem_lowerBetween (hd : IsSign d) (h : d ∈ lowerBetween before c after) : c = d := by
  have hc := isAscii_of_mem_lowerBetween h hd.isPlain
  rw [lowerBetween_of_isAscii hc] at h
  exact eq_of_toLower_eq hd (List.mem_singleton.mp h).symm

theorem IsSign.isKept (hd : IsSign d) : IsKept d :=
  ⟨isLower_of_isSign hd, eq_of_mem_lowerBetween hd⟩

/-! ### Texts -/

variable {text : List Char}

/-- An ASCII text is lower-cased letter by letter. -/
theorem lowerAfter_of_isAscii (htext : ∀ c ∈ text, IsAscii c) :
    lowerAfter before text = text.map Char.toLower := by
  induction text generalizing before with
  | nil => rfl
  | cons c rest ih =>
    obtain ⟨hc, hrest⟩ := List.forall_mem_cons.mp htext
    rw [lowerAfter_cons, lowerBetween_of_isAscii hc, ih hrest]
    rfl

/-- A text with a plain lower-case form is ASCII. -/
theorem isAscii_of_lowerAfter (h : ∀ d ∈ lowerAfter before text, IsPlain d) :
    ∀ c ∈ text, IsAscii c := by
  induction text generalizing before with
  | nil => simp
  | cons c rest ih =>
    rw [lowerAfter_cons, List.forall_mem_append] at h
    obtain ⟨hform, hrest⟩ := h
    obtain ⟨d, hd⟩ : ∃ d, d ∈ lowerBetween before c rest :=
      List.exists_mem_of_ne_nil _ lowerBetween_ne_nil
    exact List.forall_mem_cons.mpr ⟨isAscii_of_mem_lowerBetween hd (hform d hd), ih hrest⟩

end FacetedSearch.Text
