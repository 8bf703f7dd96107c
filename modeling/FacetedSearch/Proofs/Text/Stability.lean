import FacetedSearch.Proofs.Text.AsciiCase

/-!
# Texts with the same lower case

Lower-casing a second time changes nothing: a character that was written by it is no capital
letter, and neither of the small sigmas is looked at again. A capital letter of ASCII has
the place of its small letter, for itself and for the letters around it, so texts that differ in
these alone have the same lower-case form.
-/

namespace FacetedSearch.Text

variable {before after text : List Char} {c d : Char}

/-! ### Lower-casing twice -/

/--
Whether no code between two is covered by any of several runs in increasing order: those before end
below the codes, and the first that does not begins above them, unless the codes, if they are two
apart, fall in the gaps of the run.
-/
def clears (low high : Nat) (isGapped : Bool) : List CaseRun → Bool
  | [] => true
  | run :: rest =>
    bif Nat.blt run.last low then clears low high isGapped rest
    else bif Nat.blt high run.first then true
    else run.step == 2 && isGapped && (low + run.first) % 2 == 1 && clears low high isGapped rest

theorem not_covers_of_clears {low high code : Nat} {isGapped : Bool} {runs : List CaseRun}
    (hsorted : runs.Pairwise (·.first < ·.first)) (h : clears low high isGapped runs = true)
    (hlow : low ≤ code) (hhigh : code ≤ high) (hgapped : isGapped = true → (code - low) % 2 = 0) :
    ∀ run ∈ runs, run.covers code = false := by
  induction runs with
  | nil => simp
  | cons run rest ih =>
    obtain ⟨hfirst, hrest⟩ := List.pairwise_cons.mp hsorted
    rw [List.forall_mem_cons]
    simp only [CaseRun.covers, Bool.eq_false_iff, ne_eq, Bool.and_eq_true, decide_eq_true_eq,
      beq_iff_eq] at ih ⊢
    cases hbelow : Nat.blt run.last low with
    | true =>
      rw [clears, hbelow, cond_true] at h
      rw [Nat.blt_eq] at hbelow
      exact ⟨by omega, ih hrest h⟩
    | false =>
      cases habove : Nat.blt high run.first with
      | true =>
        rw [Nat.blt_eq] at habove
        refine ⟨by omega, fun other hother => ?_⟩
        have hless := hfirst other hother
        omega
      | false =>
        simp only [clears, hbelow, habove, cond_false, Bool.and_eq_true, beq_iff_eq] at h
        obtain ⟨⟨⟨hstep, hgaps⟩, hodd⟩, hclears⟩ := h
        have heven := hgapped hgaps
        rw [hstep]
        exact ⟨by omega, ih hrest hclears⟩

/--
The runs are in increasing order, the lower-case forms of each run are letters of none, and the
dotted capital letter, which is not in the table, is no lower-case form. Capital sigma is in the
table; the final sigma and the dot above, which other rules write, are not.
-/
theorem caseRuns_stable : caseRuns.IsChain (·.first < ·.first) ∧
    (∀ run ∈ caseRuns, clears run.target (run.target + (run.last - run.first))
        (run.step == 2 || run.first == run.last) caseRuns = true ∧
      (run.target + (run.last - run.first) < 'İ'.toNat ∨ 'İ'.toNat < run.target)) ∧
    (∃ run ∈ caseRuns, run.covers 'Σ'.toNat = true ∧ run.lower 'Σ'.toNat = 'σ'.toNat) ∧
    ∀ run ∈ caseRuns, run.covers 'ς'.toNat = false ∧ run.covers '\u0307'.toNat = false := by
  decide +kernel

theorem caseRuns_sorted : caseRuns.Pairwise (·.first < ·.first) :=
  List.isChain_iff_pairwise.mp caseRuns_stable.1

/-- The lower-case form of a letter of the table is no letter of the table. -/
theorem not_covers_lower {run other : CaseRun} (hrun : run ∈ caseRuns) (hother : other ∈ caseRuns)
    {code : Nat} (hcovers : run.covers code = true) : other.covers (run.lower code) = false := by
  simp only [CaseRun.covers, Bool.and_eq_true, decide_eq_true_eq, beq_iff_eq] at hcovers
  obtain ⟨hbounds, hstep⟩ := hcovers
  have hclears := (caseRuns_stable.2.1 run hrun).1
  refine not_covers_of_clears caseRuns_sorted hclears (Nat.le_add_right _ _) ?_ ?_ other hother
  · omega
  · intro hgapped
    simp only [Bool.or_eq_true, beq_iff_eq] at hgapped
    rcases hgapped with htwo | hsingle
    · rw [htwo] at hstep
      omega
    · omega

/-- A character outside the table is left as it is. -/
theorem isLower_of_not_covers (hdotted : c ≠ 'İ')
    (h : ∀ run ∈ caseRuns, run.covers c.toNat = false) : IsLower c := by
  refine ⟨?_, lowerChar_of_not_covers hdotted h⟩
  rintro rfl
  obtain ⟨run, hrun, hcovers, -⟩ := caseRuns_stable.2.2.1
  exact absurd ((h run hrun).symm.trans hcovers) Bool.false_ne_true

theorem isLower_sigma : IsLower 'σ' := by
  obtain ⟨run, hrun, hcovers, hlower⟩ := caseRuns_stable.2.2.1
  refine isLower_of_not_covers (by decide) fun other hother => ?_
  rw [← hlower]
  exact not_covers_lower hrun hother hcovers

theorem isLower_final_sigma : IsLower 'ς' :=
  isLower_of_not_covers (by decide) fun run hrun => (caseRuns_stable.2.2.2 run hrun).1

theorem isLower_dot_above : IsLower '\u0307' :=
  isLower_of_not_covers (by decide) fun run hrun => (caseRuns_stable.2.2.2 run hrun).2

/-- Whatever lower-casing writes for one character is left as it is. -/
theorem isLower_of_mem_lowerChar (hsigma : c ≠ 'Σ') (h : d ∈ lowerChar c) : IsLower d := by
  rcases lowerChar_cases c with ⟨-, hform⟩ | ⟨-, hform⟩ | ⟨run, hrun, e, hcovers, hform, he⟩
  · rw [hform] at h
    rcases List.mem_cons.mp h with rfl | h
    · exact ⟨by decide, lowerChar_of_isAscii (by decide)⟩
    · obtain rfl := List.mem_singleton.mp h
      exact isLower_dot_above
  · rw [hform] at h
    obtain rfl := List.mem_singleton.mp h
    exact ⟨hsigma, hform⟩
  · rw [hform] at h
    obtain rfl := List.mem_singleton.mp h
    apply isLower_of_not_covers
    · intro heq
      have havoid := (caseRuns_stable.2.1 run hrun).2
      rw [heq] at he
      simp only [CaseRun.covers, Bool.and_eq_true, decide_eq_true_eq] at hcovers
      simp only [CaseRun.lower] at he
      omega
    · intro other hother
      rw [he]
      exact not_covers_lower hrun hother hcovers

theorem isLower_of_mem_lowerBetween (h : d ∈ lowerBetween before c after) : IsLower d := by
  rcases mem_lowerBetween_cases h with ⟨-, rfl | rfl⟩ | ⟨hsigma, h⟩
  · exact isLower_final_sigma
  · exact isLower_sigma
  · exact isLower_of_mem_lowerChar hsigma h

/-- Nothing in a lower-cased text would change if it was lower-cased again. -/
theorem isLower_of_mem_lowerAfter (h : d ∈ lowerAfter before text) : IsLower d := by
  induction text generalizing before with
  | nil => exact absurd h List.not_mem_nil
  | cons c rest ih =>
    rw [lowerAfter_cons] at h
    rcases List.mem_append.mp h with hform | hrest
    · exact isLower_of_mem_lowerBetween hform
    · exact ih hrest

/-- Lower-casing twice is lower-casing once. -/
theorem lower_lower (text : List Char) : lower (lower text) = lower text :=
  lowerAfter_of_isLower fun _ h => isLower_of_mem_lowerAfter h

/-! ### Letters of ASCII -/

/-- What is the same for all letters of ASCII does not depend on their case. -/
theorem toLower_congr {f : Char → Bool} {value : Bool} (h : ∀ c, c.isAlpha = true → f c = value)
    (c : Char) : f c.toLower = f c := by
  by_cases hupper : c.isUpper = true
  · rw [h _ (isAlpha_toLower hupper), h c (isAlpha_of_isUpper hupper)]
  · rw [toLower_of_not_isUpper hupper]

theorem isBlank_of_isAlpha (hc : c.isAlpha = true) : isBlank c = false := by
  have hcode := (isAlpha_iff c).mp hc
  rw [Bool.eq_false_iff]
  simp only [isBlank, ne_eq, Bool.or_eq_true, Bool.and_eq_true, decide_eq_true_eq, beq_iff_eq]
  omega

theorem isCased_of_isAlpha (hc : c.isAlpha = true) : isCased c = true := by
  have hranges : [(0x41, 0x5A), (0x61, 0x7A)] <+: casedRanges := ⟨_, rfl⟩
  rw [isCased, inRanges, List.any_eq_true]
  rcases (isAlpha_iff c).mp hc with hcapital | hsmall
  · exact ⟨_, hranges.mem List.mem_cons_self, by simpa using hcapital⟩
  · exact ⟨_, hranges.mem (List.mem_cons_of_mem _ List.mem_cons_self), by simpa using hsmall⟩

/-- No letter of ASCII is skipped when the neighbours of a letter are looked for. -/
theorem caseIgnorableRanges_avoid_letters : ∀ range ∈ caseIgnorableRanges,
    (range.2 < 'A'.toNat ∨ 'Z'.toNat < range.1) ∧ (range.2 < 'a'.toNat ∨ 'z'.toNat < range.1) := by
  decide +kernel

theorem isCaseIgnorable_of_isAlpha (hc : c.isAlpha = true) : isCaseIgnorable c = false := by
  have hcode := (isAlpha_iff c).mp hc
  rw [isCaseIgnorable, inRanges, List.any_eq_false]
  intro range hrange hcovers
  have havoid := caseIgnorableRanges_avoid_letters range hrange
  simp only [Bool.and_eq_true, decide_eq_true_eq] at hcovers
  simp only [Char.reduceToNat] at havoid
  omega

theorem lowerChar_toLower (c : Char) : lowerChar c.toLower = lowerChar c := by
  by_cases hupper : c.isUpper = true
  · have hascii := isAscii_of_isAlpha (isAlpha_of_isUpper hupper)
    have hnot : c.toLower.isUpper ≠ true := by
      have hbounds := (isUpper_iff c).mp hupper
      rw [ne_eq, isUpper_iff, toNat_toLower hupper]
      omega
    rw [lowerChar_of_isAscii (isAscii_of_isAlpha (isAlpha_toLower hupper)),
      lowerChar_of_isAscii hascii, toLower_of_not_isUpper hnot]
  · rw [toLower_of_not_isUpper hupper]

theorem toLower_eq_sigma_iff (c : Char) : c.toLower = 'Σ' ↔ c = 'Σ' := by
  by_cases hupper : c.isUpper = true
  · exact iff_of_false (ne_sigma_of_isAscii (isAscii_of_isAlpha (isAlpha_toLower hupper)))
      (ne_sigma_of_isAscii (isAscii_of_isAlpha (isAlpha_of_isUpper hupper)))
  · rw [toLower_of_not_isUpper hupper]

theorem startsCased_map_toLower (text : List Char) :
    startsCased (text.map Char.toLower) = startsCased text := by
  have hskip : isCaseIgnorable ∘ Char.toLower = isCaseIgnorable :=
    funext (toLower_congr fun _ => isCaseIgnorable_of_isAlpha)
  have hcased (c : Char) : isCased c.toLower = isCased c :=
    toLower_congr (fun _ => isCased_of_isAlpha) c
  rw [startsCased, List.dropWhile_map, hskip, List.head?_map, Option.any_map]
  simp only [hcased]
  rfl

/-- A letter between two texts does not depend on their capital letters of ASCII, nor on its own. -/
theorem lowerBetween_map_toLower : lowerBetween (before.map Char.toLower) c.toLower
    (after.map Char.toLower) = lowerBetween before c after := by
  have hends : endsWord (before.map Char.toLower) (after.map Char.toLower) =
      endsWord before after := by
    rw [endsWord, startsCased_map_toLower, startsCased_map_toLower]
    rfl
  simp only [lowerBetween, toLower_eq_sigma_iff, hends, lowerChar_toLower]

/-- Texts that differ in capital and small letters of ASCII only have the same lower-case form. -/
theorem lowerAfter_map_toLower :
    lowerAfter (before.map Char.toLower) (text.map Char.toLower) = lowerAfter before text := by
  induction text generalizing before with
  | nil => rfl
  | cons c rest ih =>
    rw [List.map_cons, lowerAfter_cons, lowerAfter_cons, lowerBetween_map_toLower,
      ← List.map_cons, ih]

theorem skipBlank_map_toLower (text : List Char) :
    skipBlank (text.map Char.toLower) = (skipBlank text).map Char.toLower := by
  have hskip : isBlank ∘ Char.toLower = isBlank :=
    funext (toLower_congr fun _ => isBlank_of_isAlpha)
  rw [skipBlank, List.dropWhile_map, hskip, skipBlank]

/-- Trimming takes away as much from a text with small letters of ASCII as with capital ones. -/
theorem trim_map_toLower (text : List Char) :
    trim (text.map Char.toLower) = (trim text).map Char.toLower := by
  rw [trim, skipBlank_map_toLower, dropTrailingBlank, ← List.map_reverse, skipBlank_map_toLower,
    ← List.map_reverse]
  rfl

end FacetedSearch.Text
