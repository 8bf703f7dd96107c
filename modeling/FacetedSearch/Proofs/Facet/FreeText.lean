import FacetedSearch.Facet.FreeText
import FacetedSearch.Proofs.Text.Lowercase
import Mathlib.Data.List.Basic

/-!
# The forms of free text

A quoted phrase is a text between two double quotes with none inside, and a licence
serial is four groups of eight hexadecimal digits with hyphens between. The reader of
phrases and the pattern of serials recognise these forms and no others.
-/

namespace FacetedSearch.FreeText

/-- A text is an inner part between double quotes, with none in it. -/
def IsQuoted (text inner : List Char) : Prop := text = '"' :: (inner ++ ['"']) ∧ '"' ∉ inner

/-- Only one text can be the inner part of a quoted one. -/
theorem IsQuoted.inner_eq {text inner inner' : List Char} (h : IsQuoted text inner)
    (h' : IsQuoted text inner') : inner = inner' := by
  have heq := h.1.symm.trans h'.1
  exact List.append_cancel_right (List.cons.inj heq).2

/-- A phrase is the inner part of a quoted text, trimmed. -/
theorem phrase?_eq_some_iff {text phrase : List Char} :
    phrase? text = some phrase ↔ ∃ inner, IsQuoted text inner ∧ phrase = Text.trim inner := by
  constructor
  · intro h
    unfold phrase? at h
    split at h
    · next rest =>
      split at h
      · next hquoted =>
        obtain ⟨hlast, hinner⟩ := hquoted
        refine ⟨rest.dropLast, ⟨?_, hinner⟩, (Option.some.inj h).symm⟩
        rw [List.dropLast_append_getLast? '"' hlast]
      · simp at h
    · simp at h
  · rintro ⟨inner, ⟨rfl, hinner⟩, rfl⟩
    simp [phrase?, hinner]

/-- A text that is not quoted has no phrase. -/
theorem phrase?_eq_none_iff {text : List Char} :
    phrase? text = none ↔ ∀ inner, ¬ IsQuoted text inner := by
  constructor
  · intro h inner hquoted
    rw [phrase?_eq_some_iff.mpr ⟨inner, hquoted, rfl⟩] at h
    simp at h
  · intro h
    cases hphrase : phrase? text with
    | none => rfl
    | some phrase =>
      obtain ⟨inner, hquoted, -⟩ := phrase?_eq_some_iff.mp hphrase
      exact absurd hquoted (h inner)

/-- Nothing is left of a text exactly if nothing is left when it is trimmed. -/
theorem canonical_eq_nil_iff (text : String) :
    canonical text = [] ↔ Text.trim text.toList = [] :=
  Text.lower_eq_iff_of_marks (by simp)

/-- A quoted phrase has no words exactly if the trimmed text has only blanks in its quotes. -/
theorem phrase?_canonical_eq_nil_iff (text : String) :
    phrase? (canonical text) = some [] ↔
      ∃ inner, Text.trim text.toList = '"' :: (inner ++ ['"']) ∧
        ∀ c ∈ inner, Text.isBlank c = true := by
  rw [phrase?_eq_some_iff]
  apply exists_congr
  intro inner
  rw [eq_comm, Text.trim_eq_nil_iff, List.all_eq_true, IsQuoted, and_assoc]
  have hmarks (hblank : ∀ c ∈ inner, Text.isBlank c = true) :
      ∀ c ∈ '"' :: (inner ++ ['"']), Text.IsMark c := by
    intro c hc
    rcases List.mem_cons.mp hc with rfl | hc
    · exact Or.inr rfl
    · rcases List.mem_append.mp hc with hc | hc
      · exact Or.inl (hblank c hc)
      · exact Or.inr (List.mem_singleton.mp hc)
  constructor
  · rintro ⟨htext, -, hblank⟩
    exact ⟨(Text.lower_eq_iff_of_marks (hmarks hblank)).mp htext, hblank⟩
  · rintro ⟨htext, hblank⟩
    refine ⟨(Text.lower_eq_iff_of_marks (hmarks hblank)).mpr htext, ?_, hblank⟩
    intro hquote
    exact absurd (hblank '"' hquote) (by decide)

/-! ### Licence serials -/

/-- A group of a licence serial. -/
def IsSerialGroup (group : List Char) : Prop :=
  group.length = 8 ∧ ∀ c ∈ group, isLowerHex c = true

/-- A licence serial: four groups joined by hyphens. -/
def IsSerial (text : List Char) : Prop :=
  ∃ a b c d, IsSerialGroup a ∧ IsSerialGroup b ∧ IsSerialGroup c ∧ IsSerialGroup d ∧
    text = a ++ '-' :: (b ++ '-' :: (c ++ '-' :: d))

/-- A text fits two patterns one after the other if it is made of texts that fit them. -/
theorem fits_append_iff (pattern pattern' : List (Char → Bool)) (text : List Char) :
    fits (pattern ++ pattern') text = true ↔
      ∃ a b, fits pattern a = true ∧ fits pattern' b = true ∧ text = a ++ b := by
  induction pattern generalizing text with
  | nil =>
    constructor
    · intro h
      exact ⟨[], text, rfl, h, rfl⟩
    · rintro ⟨a, b, ha, hb, rfl⟩
      cases a with
      | nil => exact hb
      | cons c a => simp [fits] at ha
  | cons allows pattern ih =>
    cases text with
    | nil =>
      constructor
      · intro h
        simp [fits] at h
      · rintro ⟨a, b, ha, -, htext⟩
        obtain ⟨rfl, -⟩ := List.append_eq_nil_iff.mp htext.symm
        simp [fits] at ha
    | cons c text =>
      rw [List.cons_append, fits, Bool.and_eq_true, ih]
      constructor
      · rintro ⟨hc, a, b, ha, hb, rfl⟩
        refine ⟨c :: a, b, ?_, hb, rfl⟩
        rw [fits, hc, ha]
        rfl
      · rintro ⟨a, b, ha, hb, htext⟩
        cases a with
        | nil => simp [fits] at ha
        | cons d a =>
          obtain ⟨rfl, rfl⟩ := List.cons.inj htext
          rw [fits, Bool.and_eq_true] at ha
          exact ⟨ha.1, a, b, ha.2, hb, rfl⟩

/-- A text fits one condition repeated if every character meets it. -/
theorem fits_replicate_iff (allows : Char → Bool) (count : Nat) (text : List Char) :
    fits (List.replicate count allows) text = true ↔
      text.length = count ∧ ∀ c ∈ text, allows c = true := by
  induction count generalizing text with
  | zero => cases text <;> simp [fits]
  | succ count ih =>
    rw [List.replicate_succ]
    cases text with
    | nil => simp [fits]
    | cons c text =>
      rw [fits, Bool.and_eq_true, ih, List.length_cons, List.forall_mem_cons, Nat.succ_inj]
      exact and_left_comm

/-- A text fits a hyphen and a pattern if it is a hyphen and a text that fits. -/
theorem fits_hyphen_cons_iff (pattern : List (Char → Bool)) (text : List Char) :
    fits ((· == '-') :: pattern) text = true ↔
      ∃ rest, fits pattern rest = true ∧ text = '-' :: rest := by
  cases text with
  | nil => simp [fits]
  | cons c text =>
    rw [fits, Bool.and_eq_true, beq_iff_eq]
    constructor
    · rintro ⟨rfl, h⟩
      exact ⟨text, h, rfl⟩
    · rintro ⟨rest, h, htext⟩
      obtain ⟨rfl, rfl⟩ := List.cons.inj htext
      exact ⟨rfl, h⟩

/-- The pattern of serials is fitted by the serials. -/
theorem fits_serialPattern_iff (text : List Char) :
    fits serialPattern text = true ↔ IsSerial text := by
  rw [serialPattern, List.append_assoc, List.append_assoc, fits_append_iff]
  simp only [List.cons_append, fits_hyphen_cons_iff, fits_append_iff, fits_replicate_iff]
  constructor
  · rintro ⟨a, _, ha, ⟨_, ⟨b, _, hb, ⟨_, ⟨c, _, hc, ⟨d, hd, rfl⟩, rfl⟩, rfl⟩, rfl⟩, rfl⟩, rfl⟩
    exact ⟨a, b, c, d, ha, hb, hc, hd, rfl⟩
  · rintro ⟨a, b, c, d, ha, hb, hc, hd, rfl⟩
    exact ⟨a, _, ha, ⟨_, ⟨b, _, hb, ⟨_, ⟨c, _, hc, ⟨d, hd, rfl⟩, rfl⟩, rfl⟩, rfl⟩, rfl⟩, rfl⟩

/-! ### Alternatives -/

/-- Every alternative of a text but the first asks for an exact value. -/
theorem exists_sellerAlternatives (box : SellerBox) (fuzziness : String) (text : List Char) :
    ∃ others, sellerAlternatives box fuzziness text =
        .fuzzy box.fuzzyFields (String.ofList text) fuzziness :: others ∧
      ∀ clause ∈ others, ∃ field value, clause = .term field value := by
  refine ⟨_, rfl, fun clause hclause => ?_⟩
  rcases List.mem_append.mp hclause with hemail | hserial
  · split at hemail
    · obtain ⟨field, -, rfl⟩ := List.mem_map.mp hemail
      exact ⟨field, _, rfl⟩
    · exact absurd hemail List.not_mem_nil
  · split at hserial
    · exact ⟨box.serialField, _, List.mem_singleton.mp hserial⟩
    · exact absurd hserial List.not_mem_nil

end FacetedSearch.FreeText
