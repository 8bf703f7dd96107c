import FacetedSearch.Text.Blank
import Mathlib.Data.List.Basic

/-!
# What trimming leaves

Trimming takes away blanks only, so the visible characters of a text stay, and what is left
begins and ends with one of them. A text that begins and ends with a visible character is left
as it is.
-/

namespace FacetedSearch.Text

/-- The characters of a text that are not blank. -/
def visible (text : List Char) : List Char := text.filter fun c => !isBlank c

/-- A text is blank exactly if none of its characters is visible. -/
theorem visible_eq_nil_iff (text : List Char) : visible text = [] ↔ text.all isBlank = true := by
  simp only [visible, List.filter_eq_nil_iff, Bool.not_eq_true', Bool.not_eq_false,
    List.all_eq_true]

theorem visible_cons (c : Char) (rest : List Char) :
    visible (c :: rest) = if isBlank c = true then visible rest else c :: visible rest := by
  by_cases hc : isBlank c = true
  · simp [visible, hc]
  · simp [visible, hc]

theorem visible_append (text text' : List Char) :
    visible (text ++ text') = visible text ++ visible text' := List.filter_append text text'

theorem visible_skipBlank (text : List Char) : visible (skipBlank text) = visible text := by
  induction text with
  | nil => rfl
  | cons c rest ih =>
    by_cases hc : isBlank c = true
    · rw [skipBlank, List.dropWhile_cons_of_pos hc, visible_cons, if_pos hc]
      exact ih
    · rw [skipBlank, List.dropWhile_cons_of_neg hc]

theorem visible_reverse (text : List Char) : visible text.reverse = (visible text).reverse :=
  List.filter_reverse

/-- Trimming leaves the visible characters. -/
@[simp] theorem visible_trim (text : List Char) : visible (trim text) = visible text := by
  rw [trim, dropTrailingBlank, visible_reverse, visible_skipBlank, visible_reverse,
    List.reverse_reverse, visible_skipBlank]

/-- A digit is visible. -/
theorem isBlank_of_isDigit {c : Char} (h : c.isDigit = true) : isBlank c = false := by
  have hcode : 48 ≤ c.toNat ∧ c.toNat ≤ 57 := by
    simpa [Char.isDigit, UInt32.le_iff_toNat_le] using h
  have hnot : ¬ isBlank c = true := by
    simp only [isBlank, Bool.or_eq_true, Bool.and_eq_true, decide_eq_true_eq, beq_iff_eq]
    omega
  exact eq_false_of_ne_true hnot

/-! ### The ends of a trimmed text -/

/-- Leading blanks are skipped up to a visible character. -/
theorem isBlank_of_skipBlank {text rest : List Char} {c : Char} (h : skipBlank text = c :: rest) :
    isBlank c = false := by
  have hhead := List.head?_dropWhile_not isBlank text
  rw [show text.dropWhile isBlank = c :: rest from h] at hhead
  simpa using hhead

/-- A trimmed text begins with a visible character. -/
theorem isBlank_first_of_trim {text rest : List Char} {c : Char} (h : trim text = c :: rest) :
    isBlank c = false := by
  have hprefix : trim text <+: skipBlank text := by
    have hsuffix : skipBlank (skipBlank text).reverse <:+ (skipBlank text).reverse :=
      List.dropWhile_suffix isBlank
    have hreverse := List.reverse_prefix.mpr hsuffix
    rwa [List.reverse_reverse] at hreverse
  obtain ⟨after, hafter⟩ := hprefix
  rw [h, List.cons_append] at hafter
  exact isBlank_of_skipBlank hafter.symm

theorem isBlank_of_head?_trim {text : List Char} :
    ∀ c ∈ (trim text).head?, isBlank c = false := by
  intro c hc
  obtain ⟨rest, hrest⟩ := List.head?_eq_some_iff.mp hc
  exact isBlank_first_of_trim hrest

/-- A trimmed text ends with a visible character. -/
theorem isBlank_last_of_trim {text before : List Char} {c : Char} (h : trim text = before ++ [c]) :
    isBlank c = false := by
  have hskip : skipBlank (skipBlank text).reverse = c :: before.reverse := by
    rw [← List.reverse_inj, ← dropTrailingBlank, ← trim, h]
    simp
  exact isBlank_of_skipBlank hskip

theorem isBlank_of_getLast?_trim {text : List Char} :
    ∀ c ∈ (trim text).getLast?, isBlank c = false := by
  intro c hc
  obtain ⟨before, hbefore⟩ := List.getLast?_eq_some_iff.mp hc
  exact isBlank_last_of_trim hbefore

/-- A text is its trimmed form with blanks before and after it. -/
theorem exists_surroundings (text : List Char) :
    ∃ before after, text = before ++ trim text ++ after ∧ (∀ c ∈ before, isBlank c = true) ∧
      ∀ c ∈ after, isBlank c = true := by
  have hblank (cs : List Char) : ∀ c ∈ cs.takeWhile isBlank, isBlank c = true := fun c hc =>
    List.all_eq_true.mp List.all_takeWhile c hc
  have hsplit (cs : List Char) : cs.takeWhile isBlank ++ skipBlank cs = cs :=
    List.takeWhile_append_dropWhile
  refine ⟨text.takeWhile isBlank, ((skipBlank text).reverse.takeWhile isBlank).reverse, ?_,
    hblank text, fun c hc => hblank _ c (List.mem_reverse.mp hc)⟩
  rw [trim, dropTrailingBlank, List.append_assoc, ← List.reverse_append, hsplit,
    List.reverse_reverse, hsplit]

theorem mem_of_mem_trim {text : List Char} {c : Char} (h : c ∈ trim text) : c ∈ text := by
  obtain ⟨before, after, htext, -, -⟩ := exists_surroundings text
  rw [htext]
  exact List.mem_append_left _ (List.mem_append_right _ h)

theorem skipBlank_eq_self {text : List Char} (h : ∀ c ∈ text.head?, isBlank c = false) :
    skipBlank text = text := by
  cases text with
  | nil => rfl
  | cons c rest => exact List.dropWhile_cons_of_neg (by simp [h c rfl])

/-- Blanks around a text that begins and ends with a visible character are trimmed, and no more. -/
theorem trim_surrounded {before text after : List Char} (hbefore : ∀ c ∈ before, isBlank c = true)
    (hafter : ∀ c ∈ after, isBlank c = true) (hfirst : ∀ c ∈ text.head?, isBlank c = false)
    (hlast : ∀ c ∈ text.getLast?, isBlank c = false) : trim (before ++ text ++ after) = text := by
  cases text with
  | nil =>
    rw [List.append_nil, trim_eq_nil_iff]
    exact List.all_eq_true.mpr fun c hc => (List.mem_append.mp hc).elim (hbefore c) (hafter c)
  | cons first rest =>
    have hstart : skipBlank (before ++ first :: rest ++ after) = first :: rest ++ after := by
      rw [List.append_assoc, skipBlank, List.dropWhile_append_of_pos hbefore]
      exact skipBlank_eq_self hfirst
    have hend : skipBlank (first :: rest ++ after).reverse = (first :: rest).reverse := by
      rw [List.reverse_append, skipBlank, List.dropWhile_append_of_pos fun c hc =>
        hafter c (List.mem_reverse.mp hc)]
      exact skipBlank_eq_self (by rwa [List.head?_reverse])
    rw [trim, hstart, dropTrailingBlank, hend, List.reverse_reverse]

/-- Blanks before and after a text are trimmed with those that it has itself. -/
theorem trim_append_blanks {before text after : List Char}
    (hbefore : ∀ c ∈ before, isBlank c = true) (hafter : ∀ c ∈ after, isBlank c = true) :
    trim (before ++ text ++ after) = trim text := by
  obtain ⟨before', after', htext, hbefore', hafter'⟩ := exists_surroundings text
  have hsplit : before ++ text ++ after = before ++ before' ++ trim text ++ (after' ++ after) := by
    conv_lhs => rw [htext]
    simp only [List.append_assoc]
  rw [hsplit]
  exact trim_surrounded (List.forall_mem_append.mpr ⟨hbefore, hbefore'⟩)
    (List.forall_mem_append.mpr ⟨hafter', hafter⟩) isBlank_of_head?_trim isBlank_of_getLast?_trim

/-- Trimming twice is trimming once. -/
theorem trim_trim (text : List Char) : trim (trim text) = trim text := by
  obtain ⟨before, after, htext, hbefore, hafter⟩ := exists_surroundings text
  have hagain : trim (before ++ trim text ++ after) = trim (trim text) :=
    trim_append_blanks hbefore hafter
  rw [← hagain, ← htext]

theorem isBlank_of_head?_append {text : List Char} (hne : text ≠ [])
    (h : ∀ c ∈ text, isBlank c = false) (rest : List Char) :
    ∀ c ∈ (text ++ rest).head?, isBlank c = false := by
  intro c hc
  rw [List.head?_append_of_ne_nil text hne] at hc
  exact h c (List.mem_of_mem_head? hc)

theorem isBlank_of_getLast?_append {text : List Char} (hne : text ≠ [])
    (h : ∀ c ∈ text, isBlank c = false) (before : List Char) :
    ∀ c ∈ (before ++ text).getLast?, isBlank c = false := by
  intro c hc
  rw [List.getLast?_append_of_ne_nil before hne] at hc
  exact h c (List.mem_of_getLast? hc)

/-- Nothing is trimmed from a text that begins and ends with a visible character. -/
theorem trim_eq_self {first last : Char} {inner : List Char} (hfirst : isBlank first = false)
    (hlast : isBlank last = false) :
    trim (first :: (inner ++ [last])) = first :: (inner ++ [last]) := by
  have hsurrounded : trim ([] ++ first :: (inner ++ [last]) ++ []) = first :: (inner ++ [last]) :=
    trim_surrounded (by simp) (by simp) (by simpa using hfirst)
      (by rw [← List.cons_append, List.getLast?_concat]; simpa using hlast)
  rwa [List.nil_append, List.append_nil] at hsurrounded

/--
A trimmed text is blank between double quotes exactly if two double quotes are all that is
visible of it.
-/
theorem trim_eq_quotes_iff (text : List Char) :
    (∃ inner, trim text = '"' :: (inner ++ ['"']) ∧ ∀ c ∈ inner, isBlank c = true) ↔
      visible text = ['"', '"'] := by
  constructor
  · rintro ⟨inner, htrim, hblank⟩
    have hinner : visible inner = [] :=
      (visible_eq_nil_iff inner).mpr (List.all_eq_true.mpr hblank)
    have hquote : isBlank '"' ≠ true := by decide
    rw [← visible_trim, htrim, visible_cons, if_neg hquote, visible_append, hinner, visible_cons,
      if_neg hquote]
    rfl
  · intro h
    rw [← visible_trim] at h
    cases htrim : trim text with
    | nil => simp [htrim, visible] at h
    | cons first rest =>
      have hfirst := isBlank_first_of_trim htrim
      rw [htrim, visible_cons, if_neg (ne_true_of_eq_false hfirst)] at h
      obtain ⟨rfl, hrest⟩ := List.cons.inj h
      rcases List.eq_nil_or_concat rest with rfl | ⟨inner, last, rfl⟩
      · simp [visible] at hrest
      · rw [List.concat_eq_append] at htrim hrest ⊢
        have hends : trim text = ('"' :: inner) ++ [last] := htrim
        have hlast := isBlank_last_of_trim hends
        rw [visible_append, visible_cons, if_neg (ne_true_of_eq_false hlast)] at hrest
        have hparts : visible inner ++ [last] = [] ++ ['"'] := hrest
        obtain ⟨hinner, hend⟩ := List.append_inj' hparts rfl
        obtain rfl := List.singleton_inj.mp hend
        exact ⟨inner, rfl, List.all_eq_true.mp ((visible_eq_nil_iff inner).mp hinner)⟩

end FacetedSearch.Text
