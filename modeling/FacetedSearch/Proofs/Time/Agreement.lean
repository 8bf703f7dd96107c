import FacetedSearch.Proofs.Time.Strict
import Mathlib.Data.List.Pairwise

/-!
# Layouts that read the same text

Two layouts that read the same text read the same instant, so the order in which they are tried
does not matter. A layout with a fraction reads what the layout without it reads; any other two
layouts read no text in common, since the separator or the end of the text tells them apart.
-/

namespace FacetedSearch

namespace Time

variable {layout layout' parts : List Part} {fields fields' : Fields}
  {text rest : List Char}

/-- Two layouts read the same instant in every text that both of them read. -/
def Agree (layout layout' : List Part) : Prop :=
  ∀ text t t', readBy layout text = some t → readBy layout' text = some t' → t = t'

theorem Agree.refl (layout : List Part) : Agree layout layout :=
  fun _ _ _ h h' => Option.some.inj (h.symm.trans h')

theorem Agree.symm (h : Agree layout layout') : Agree layout' layout :=
  fun text t t' ht ht' => (h text t' t ht' ht).symm

/-! ### Layouts with and without a fraction -/

theorem Fields.nanos_set (fields : Fields) (slot : Slot) (n : Nat) :
    (fields.set slot n).nanos = fields.nanos := by
  cases slot <;> rfl

/-- Only a fraction sets the nanoseconds. -/
theorem Part.nanos_of_read {part : Part} (hpart : part ≠ .fraction)
    (h : part.read fields text = some (fields', rest)) : fields'.nanos = fields.nanos := by
  cases part with
  | fraction => exact absurd rfl hpart
  | exactly width slot =>
    obtain ⟨⟨n, after⟩, -, heq⟩ := Option.map_eq_some_iff.mp h
    obtain ⟨rfl, -⟩ := Prod.mk.inj heq
    exact fields.nanos_set slot n
  | number slot =>
    obtain ⟨⟨n, after⟩, -, heq⟩ := Option.map_eq_some_iff.mp h
    obtain ⟨rfl, -⟩ := Prod.mk.inj heq
    exact fields.nanos_set slot n
  | signedYear =>
    obtain ⟨⟨n, after⟩, -, heq⟩ := Option.map_eq_some_iff.mp h
    obtain ⟨rfl, -⟩ := Prod.mk.inj heq
    rfl
  | mark allowed =>
    cases text with
    | nil => simp [Part.read] at h
    | cons c after =>
      simp only [Part.read, Option.ite_none_right_eq_some, Option.some.injEq, Prod.mk.injEq] at h
      rw [h.2.1]
  | gap =>
    obtain ⟨rfl, -⟩ := Prod.mk.inj (Option.some.inj h)
    rfl
  | zone =>
    obtain ⟨⟨n, after⟩, -, heq⟩ := Option.map_eq_some_iff.mp h
    obtain ⟨rfl, -⟩ := Prod.mk.inj heq
    rfl

theorem nanos_of_readParts (hparts : .fraction ∉ parts)
    (h : readParts parts fields text = some (fields', rest)) : fields'.nanos = fields.nanos := by
  -- Each part keeps what the parts before it have left.
  induction parts generalizing fields text with
  | nil =>
    obtain ⟨rfl, -⟩ := Prod.mk.inj (Option.some.inj h)
    rfl
  | cons part parts ih =>
    obtain ⟨hpart, hrest⟩ := not_or.mp fun h => hparts (List.mem_cons.mpr h)
    obtain ⟨between, after, hread, hparts⟩ := readParts_cons_eq_some_iff.mp h
    exact (ih hrest hparts).trans (Part.nanos_of_read (Ne.symm hpart) hread)

/-- A fraction at the end of a layout may be missing in the text. -/
theorem readBy_append_fraction {t : Instant} (hparts : .fraction ∉ parts)
    (h : readBy parts text = some t) : readBy (parts ++ [.fraction]) text = some t := by
  obtain ⟨fields, hread, ht⟩ := readBy_eq_some_iff.mp h
  have hnanos : fields.nanos = 0 := nanos_of_readParts hparts hread
  have hfraction : readParts [.fraction] fields [] = some (fields, []) := by
    rw [readParts_cons_of_some (read_fraction_of_no_point (by simp) fields), ← hnanos]
    rfl
  exact readBy_eq_some_iff.mpr
    ⟨fields, readParts_append_eq_some_iff.mpr ⟨fields, [], hread, hfraction⟩, ht⟩

theorem agree_fraction (hparts : .fraction ∉ parts) : Agree (parts ++ [.fraction]) parts :=
  fun _ _ _ h h' => Option.some.inj (h.symm.trans (readBy_append_fraction hparts h'))

/-! ### Layouts that exclude each other -/

/-- With an offset no layout but the strict one reads a text to its end. -/
theorem agree_zoned (hlayout : layout ∈ layouts.tail) : Agree zonedLayout layout := by
  intro text t t' h h'
  obtain ⟨day, separator, time, zone, hseparator, rfl⟩ := exists_of_readBy_zoned h
  rcases readBy_loose day time hseparator zone.endsBefore_text hlayout with hnone | ⟨hend, -⟩
  · rw [hnone] at h'
    simp at h'
  · exact absurd hend zone.text_ne_nil

/-- A time of day begins with the letter after the day, or with blanks and a digit. -/
theorem agree_letter_gap (parts parts' : List Part) :
    Agree (dayLayout ++ [.mark ['T']] ++ looseTime ++ parts)
      (dayLayout ++ [.gap] ++ looseTime ++ parts') := by
  intro text t t' h h'
  obtain ⟨_, hread, -⟩ := readBy_eq_some_iff.mp h
  obtain ⟨_, hread', -⟩ := readBy_eq_some_iff.mp h'
  rw [List.append_assoc, List.append_assoc] at hread hread'
  obtain ⟨between, after, hday, hletter⟩ := readParts_append_eq_some_iff.mp hread
  obtain ⟨between', after', hday', hgap⟩ := readParts_append_eq_some_iff.mp hread'
  obtain ⟨rfl, rfl⟩ := Prod.mk.inj (Option.some.inj (hday.symm.trans hday'))
  obtain ⟨rest, rfl, -⟩ := readParts_mark_singleton_eq_some_iff.mp hletter
  rw [List.singleton_append, readParts_gap_of_letter rfl rfl] at hgap
  simp at hgap

/-- After a day there is a time of day or there is none. -/
theorem agree_timed_day {separator : Part}
    (hseparator : separator = .mark ['T'] ∨ separator = .gap) (parts : List Part) :
    Agree (dayLayout ++ [separator] ++ looseTime ++ parts) dayLayout := by
  intro text t t' h h'
  obtain ⟨_, hday, -⟩ := readBy_eq_some_iff.mp h'
  rw [readBy_timed_of_day hday hseparator parts] at h
  simp at h

/-! ### Any order -/

/-- Any two layouts agree. -/
theorem pairwise_agree : layouts.Pairwise Agree := by
  have hletter : .fraction ∉ dayLayout ++ [.mark ['T']] ++ looseTime := by decide
  have hgap : .fraction ∉ dayLayout ++ [.gap] ++ looseTime := by decide
  refine .cons (fun _ => agree_zoned) ?_
  simp only [List.pairwise_cons, List.forall_mem_cons, List.not_mem_nil, false_implies,
    implies_true, and_true, List.Pairwise.nil]
  exact ⟨⟨agree_fraction hletter, agree_letter_gap _ _, agree_letter_gap _ [],
      agree_timed_day (.inl rfl) _⟩,
    ⟨agree_letter_gap [] _, agree_letter_gap [] [], agree_timed_day (.inl rfl) []⟩,
    ⟨agree_fraction hgap, agree_timed_day (.inr rfl) _⟩,
    agree_timed_day (.inr rfl) []⟩

theorem agree_of_mem (hlayout : layout ∈ layouts) (hlayout' : layout' ∈ layouts) :
    Agree layout layout' :=
  have : Std.Symm Agree := ⟨fun _ _ => Agree.symm⟩
  pairwise_agree.forall_of_forall (fun layout _ => Agree.refl layout) hlayout hlayout'

/-- A text that one of the layouts reads is read so. -/
theorem readTimestamp_of_readBy {text : String} {t : Instant} (hlayout : layout ∈ layouts)
    (h : readBy layout (Text.trim text.toList) = some t) : readTimestamp text = some t := by
  refine readTimestamp_of_layouts (fun layout' hlayout' => ?_) ⟨layout, hlayout, h⟩
  cases hread : readBy layout' (Text.trim text.toList) with
  | none => exact .inl rfl
  | some t' => exact .inr (congrArg some (agree_of_mem hlayout' hlayout _ t' t hread h))

end Time

/--
Any two layouts that read a text read the same instant in it, and so a timestamp is read alike in
whatever order the layouts are tried.
-/
theorem layout_order_is_immaterial (text : String) :
    (∀ layout ∈ Time.layouts, ∀ layout' ∈ Time.layouts, ∀ t t',
      Time.readBy layout (Text.trim text.toList) = some t →
      Time.readBy layout' (Text.trim text.toList) = some t' → t = t') ∧
    ∀ order : List (List Time.Part), order.Perm Time.layouts →
      (order.findSome? fun layout => Time.readBy layout (Text.trim text.toList)) =
        Time.readTimestamp text := by
  refine ⟨fun layout hlayout layout' hlayout' => Time.agree_of_mem hlayout hlayout' _, ?_⟩
  intro order horder
  cases hfound : order.findSome? fun layout => Time.readBy layout (Text.trim text.toList) with
  | none =>
    have hnone := List.findSome?_eq_none_iff.mp hfound
    exact (List.findSome?_eq_none_iff.mpr fun layout hlayout =>
      hnone layout (horder.mem_iff.mpr hlayout)).symm
  | some t =>
    obtain ⟨layout, hlayout, hread⟩ := List.exists_of_findSome?_eq_some hfound
    exact (Time.readTimestamp_of_readBy (horder.mem_iff.mp hlayout) hread).symm

/--
A time of day without a fraction is read with a part for the fraction and without it, and the
layouts tried in reverse read it the same.
-/
theorem time_without_fraction_read_alike :
    (∃ t,
      Time.readBy (Time.dayLayout ++ [.mark ['T']] ++ Time.looseTime ++ [.fraction])
        (Text.trim " 2024-01-15T10:00:00".toList) = some t ∧
      Time.readBy (Time.dayLayout ++ [.mark ['T']] ++ Time.looseTime)
        (Text.trim " 2024-01-15T10:00:00".toList) = some t) ∧
    (Time.layouts.reverse.findSome? fun layout =>
        Time.readBy layout (Text.trim " 2024-01-15T10:00:00".toList)) =
      Time.readTimestamp " 2024-01-15T10:00:00" := by
  obtain ⟨hagree, horder⟩ := layout_order_is_immaterial " 2024-01-15T10:00:00"
  obtain ⟨t, ht⟩ : ∃ t,
      Time.readBy (Time.dayLayout ++ [.mark ['T']] ++ Time.looseTime ++ [.fraction])
        (Text.trim " 2024-01-15T10:00:00".toList) = some t := ⟨_, rfl⟩
  obtain ⟨t', ht'⟩ : ∃ t', Time.readBy (Time.dayLayout ++ [.mark ['T']] ++ Time.looseTime)
      (Text.trim " 2024-01-15T10:00:00".toList) = some t' := ⟨_, rfl⟩
  obtain rfl := hagree _ (by simp [Time.layouts]) _ (by simp [Time.layouts]) t t' ht ht'
  exact ⟨⟨t, ht, ht'⟩, horder _ (List.reverse_perm _)⟩

end FacetedSearch
