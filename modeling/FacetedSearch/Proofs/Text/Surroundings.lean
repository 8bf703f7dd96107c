import FacetedSearch.Proofs.Text.Lowercase
import FacetedSearch.Proofs.Text.Trim

/-!
# Lower case between marks

A blank character or a double quote ends a word: it is no cased letter, and it is not skipped
when the neighbours of a letter are looked for. What stands beyond such a mark makes no difference
to a sigma, so marks around a text can be taken away before or after it is lower-cased.
-/

namespace FacetedSearch.Text

/-- No mark is a cased letter, and none is skipped between a letter and its neighbours. -/
theorem letterRanges_avoid_marks : ∀ range ∈ casedRanges ++ caseIgnorableRanges,
    ∀ mark ∈ markRanges, range.2 < mark.1 ∨ mark.2 < range.1 := by
  have hall : ((casedRanges ++ caseIgnorableRanges).all fun range => markRanges.all fun mark =>
      Nat.blt range.2 mark.1 || Nat.blt mark.2 range.1) = true := by decide +kernel
  simpa only [List.all_eq_true, Bool.or_eq_true, Nat.blt_eq] using hall

variable {before text after marks : List Char} {c : Char}

theorem not_inRanges_of_isMark {ranges : List (Nat × Nat)}
    (hranges : ranges ⊆ casedRanges ++ caseIgnorableRanges) (hc : IsMark c) :
    inRanges ranges c.toNat = false := by
  obtain ⟨mark, hmark, hfirst, hlast⟩ := (isMark_iff c).mp hc
  rw [inRanges, List.any_eq_false]
  intro range hrange hcovers
  simp only [Bool.and_eq_true, decide_eq_true_eq] at hcovers
  have hapart := letterRanges_avoid_marks range (hranges hrange) mark hmark
  omega

theorem isCased_of_isMark (hc : IsMark c) : isCased c = false :=
  not_inRanges_of_isMark (List.subset_append_left _ _) hc

theorem isCaseIgnorable_of_isMark (hc : IsMark c) : isCaseIgnorable c = false :=
  not_inRanges_of_isMark (List.subset_append_right _ _) hc

/-! ### Looking past marks -/

/-- A word does not go on beyond a mark. -/
theorem startsCased_append_mark (hc : IsMark c) (text rest : List Char) :
    startsCased (text ++ c :: rest) = startsCased text := by
  induction text with
  | nil =>
    rw [List.nil_append, startsCased, List.dropWhile_cons_of_neg (by
      simp [isCaseIgnorable_of_isMark hc])]
    exact isCased_of_isMark hc
  | cons d text ih =>
    by_cases hd : isCaseIgnorable d = true
    · rw [List.cons_append, startsCased, List.dropWhile_cons_of_pos hd]
      rw [startsCased, List.dropWhile_cons_of_pos hd]
      exact ih
    · rw [List.cons_append, startsCased, List.dropWhile_cons_of_neg hd]
      rw [startsCased, List.dropWhile_cons_of_neg hd]
      rfl

theorem startsCased_append_marks (hmarks : ∀ c ∈ marks, IsMark c) (text : List Char) :
    startsCased (text ++ marks) = startsCased text := by
  cases marks with
  | nil => rw [List.append_nil]
  | cons c rest => exact startsCased_append_mark (hmarks c List.mem_cons_self) text rest

/-- Marks before a text and after it make no difference to a letter in it. -/
theorem lowerBetween_append_marks (hmarks : ∀ c ∈ marks, IsMark c) (c : Char) :
    lowerBetween (before ++ marks) c after = lowerBetween before c after ∧
      lowerBetween before c (after ++ marks) = lowerBetween before c after := by
  have hends : endsWord (before ++ marks) after = endsWord before after ∧
      endsWord before (after ++ marks) = endsWord before after := by
    simp only [endsWord, startsCased_append_marks hmarks, and_self]
  rw [lowerBetween, lowerBetween, lowerBetween, hends.1, hends.2]
  exact ⟨rfl, rfl⟩

/-- What comes before a text is looked at as far as the last mark. -/
theorem lowerAfter_append_marks (hmarks : ∀ c ∈ marks, IsMark c) :
    lowerAfter (before ++ marks) text = lowerAfter before text := by
  induction text generalizing before with
  | nil => rfl
  | cons c rest ih =>
    rw [lowerAfter_cons, lowerAfter_cons, (lowerBetween_append_marks hmarks c).1,
      ← List.cons_append, ih]

/-- Marks after a text stay there. -/
theorem lowerAfter_text_append (hmarks : ∀ c ∈ marks, IsMark c) :
    lowerAfter before (text ++ marks) = lowerAfter before text ++ marks := by
  induction text generalizing before with
  | nil => exact lowerAfter_of_isLower fun c hc => (hmarks c hc).isKept.isLower
  | cons c rest ih =>
    rw [List.cons_append, lowerAfter_cons, lowerAfter_cons, (lowerBetween_append_marks hmarks c).2,
      ih, List.append_assoc]

/-- Marks before a text stay there. -/
theorem lowerAfter_marks_append (hmarks : ∀ c ∈ marks, IsMark c) :
    lowerAfter before (marks ++ text) = marks ++ lowerAfter (marks.reverse ++ before) text := by
  induction marks generalizing before with
  | nil => rfl
  | cons c rest ih =>
    obtain ⟨hc, hrest⟩ := List.forall_mem_cons.mp hmarks
    rw [List.cons_append, lowerAfter_cons, lowerBetween_of_isLower hc.isKept.isLower, ih hrest,
      List.reverse_cons, List.append_assoc, List.singleton_append, List.cons_append,
      List.singleton_append]

/-- A text between marks is lower-cased as if it stood alone. -/
theorem lower_between_marks (hbefore : ∀ c ∈ before, IsMark c) (hafter : ∀ c ∈ after, IsMark c) :
    lower (before ++ text ++ after) = before ++ lower text ++ after := by
  have hreverse : ∀ c ∈ before.reverse, IsMark c := fun c hc =>
    hbefore c (List.mem_reverse.mp hc)
  have halone : lowerAfter ([] ++ before.reverse) text = lowerAfter [] text :=
    lowerAfter_append_marks hreverse
  rw [List.nil_append] at halone
  rw [lower, lowerAfter_text_append hafter, lowerAfter_marks_append hbefore, List.append_nil,
    halone]
  rfl

/-! ### Trimming -/

/-- A lower-cased text begins and ends with a visible character if the text does. -/
theorem isBlank_of_ends_lower :
    ((∀ c ∈ text.head?, isBlank c = false) → ∀ c ∈ (lower text).head?, isBlank c = false) ∧
      ((∀ c ∈ text.getLast?, isBlank c = false) →
        ∀ c ∈ (lower text).getLast?, isBlank c = false) := by
  constructor
  · intro hfirst c hc
    by_contra hblank
    have hkept : IsKept c := IsMark.isKept (.inl (eq_true_of_ne_false hblank))
    exact hblank (hfirst c ((head?_lowerAfter_eq_some_iff hkept).mp hc))
  · intro hlast c hc
    by_contra hblank
    have hkept : IsKept c := IsMark.isKept (.inl (eq_true_of_ne_false hblank))
    exact hblank (hlast c ((getLast?_lowerAfter_eq_some_iff hkept).mp hc))

/-- It makes no difference whether a text is trimmed before or after it is lower-cased. -/
theorem trim_lower (text : List Char) : trim (lower text) = lower (trim text) := by
  obtain ⟨before, after, htext, hbefore, hafter⟩ := exists_surroundings text
  have hmarks (blanks : List Char) (h : ∀ c ∈ blanks, isBlank c = true) :
      ∀ c ∈ blanks, IsMark c := fun c hc => .inl (h c hc)
  have hlower : lower text = before ++ lower (trim text) ++ after := by
    conv_lhs => rw [htext]
    exact lower_between_marks (hmarks before hbefore) (hmarks after hafter)
  rw [hlower]
  exact trim_surrounded hbefore hafter (isBlank_of_ends_lower.1 isBlank_of_head?_trim)
    (isBlank_of_ends_lower.2 isBlank_of_getLast?_trim)

end FacetedSearch.Text
