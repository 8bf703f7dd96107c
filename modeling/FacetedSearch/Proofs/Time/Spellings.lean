import FacetedSearch.Proofs.Time.Written

/-!
# Whole timestamps

What is read in a written day and time of day with an offset, in one without, and in a day
alone, each with blanks around it: the instant of the numbers, if there is one. An offset is
read by the strict layout only; without one the loose layouts read universal time.
-/

namespace FacetedSearch.Time

open Text (isBlank skipBlank)

variable {layout : List Part} {fields : Fields} {rest : List Char}

/-! ### The layout with an offset -/

/-- A day and a time of day with an offset are read as the instant of their numbers. -/
theorem readBy_zoned (day : WrittenDay) (time : WrittenTime) (zone : WrittenZone) {c : Char}
    (hc : c = 'T' ∨ c = 't' ∨ c = ' ') :
    readBy zonedLayout (day.text ++ c :: (time.text ++ zone.text)) =
      (zone.write (time.write (day.write {}))).toInstant? := by
  apply readBy_of_readParts
  have hmark : c ∈ ['T', 't', ' '] := by simpa using hc
  simp only [zonedLayout, List.append_assoc, List.cons_append, List.nil_append]
  rw [day.readParts_strictDay, readParts_cons_of_some (read_mark_cons hmark _ _),
    time.readParts_strictTime _ _ zone.endsBefore_text,
    readParts_cons_of_some (zone.read_zone _)]
  rfl

/-! ### The loose layouts -/

theorem read_number_of_letter {c : Char} (hblank : isBlank c = false) (hdigit : c.isDigit = false)
    (slot : Slot) : (Part.number slot).read fields (c :: rest) = none := by
  have hskip : skipBlank (c :: rest) = c :: rest :=
    Text.skipBlank_eq_self (by simpa using hblank)
  have hnumber : readNumber 2 (c :: rest) = none := by
    simp [readNumber, takeDigits, hdigit]
  rw [Part.read, hskip, hnumber]
  rfl

/-- After a gap a time of day begins with a digit. -/
theorem readParts_gap_of_letter {c : Char} (hblank : isBlank c = false)
    (hdigit : c.isDigit = false) (parts : List Part) (rest : List Char) :
    readParts (.gap :: (looseTime ++ parts)) fields (c :: rest) = none := by
  have hgap : Part.gap.read fields (c :: rest) = some (fields, c :: rest) := by
    rw [Part.read, Text.skipBlank_eq_self (by simpa using hblank)]
  rw [readParts_cons_of_some hgap, looseTime, List.cons_append,
    readParts_cons_of_none (read_number_of_letter hblank hdigit _)]

theorem read_gap_blank (time : WrittenTime) (rest : List Char) :
    Part.gap.read fields (' ' :: (time.clock ++ rest)) = some (fields, time.clock ++ rest) := by
  have hskip : skipBlank (' ' :: (time.clock ++ rest)) = time.clock ++ rest := by
    rw [skipBlank, List.dropWhile_cons_of_pos (by decide)]
    simp only [WrittenTime.clock, List.append_assoc]
    exact time.hour.skipBlank_digits_append _
  rw [Part.read, hskip]

/-- A time of day after a letter `T`, or after a blank where the layout has a gap. -/
theorem readParts_looseTime_of_separator (separator : Part) (c : Char)
    (h : separator = .mark ['T'] ∧ c = 'T' ∨ separator = .gap ∧ c = ' ') (day : WrittenDay)
    (time : WrittenTime) (parts : List Part) (rest : List Char) :
    readParts (dayLayout ++ [separator] ++ looseTime ++ parts) {}
        (day.text ++ c :: (time.clock ++ rest)) =
      readParts parts (time.writeClock (day.write {})) rest := by
  simp only [List.append_assoc, List.cons_append, List.nil_append]
  rw [day.readParts_dayLayout]
  rcases h with ⟨rfl, rfl⟩ | ⟨rfl, rfl⟩
  · rw [readParts_cons_of_some (read_mark_cons List.mem_cons_self _ _), time.readParts_looseTime]
  · rw [readParts_cons_of_some (read_gap_blank _ _), time.readParts_looseTime]

/-- Any other separator is not read. -/
theorem readParts_looseTime_of_other (separator : Part) (c : Char)
    (h : separator = .mark ['T'] ∧ c ≠ 'T' ∨
      separator = .gap ∧ isBlank c = false ∧ c.isDigit = false) (day : WrittenDay)
    (parts : List Part) (rest : List Char) :
    readParts (dayLayout ++ [separator] ++ looseTime ++ parts) {} (day.text ++ c :: rest) =
      none := by
  simp only [List.append_assoc, List.cons_append, List.nil_append]
  rw [day.readParts_dayLayout]
  rcases h with ⟨rfl, hne⟩ | ⟨rfl, hblank, hdigit⟩
  · exact readParts_cons_of_none (read_mark_cons_eq_none (by simpa using hne) _ _)
  · exact readParts_gap_of_letter hblank hdigit parts rest

/-- The separators of the loose layouts read the time of day behind one separator each. -/
theorem readParts_loose {separator : Part} (hseparator : separator = .mark ['T'] ∨ separator = .gap)
    {c : Char} (hc : c = 'T' ∨ c = 't' ∨ c = ' ') (day : WrittenDay) (time : WrittenTime)
    (parts : List Part) (rest : List Char) :
    readParts (dayLayout ++ [separator] ++ looseTime ++ parts) {}
        (day.text ++ c :: (time.clock ++ rest)) = none ∨
      readParts (dayLayout ++ [separator] ++ looseTime ++ parts) {}
          (day.text ++ c :: (time.clock ++ rest)) =
        readParts parts (time.writeClock (day.write {})) rest := by
  rcases hseparator with rfl | rfl
  · by_cases hletter : c = 'T'
    · exact .inr (readParts_looseTime_of_separator _ _ (.inl ⟨rfl, hletter⟩) day time parts rest)
    · exact .inl (readParts_looseTime_of_other _ _ (.inl ⟨rfl, hletter⟩) day parts _)
  · by_cases hblank : c = ' '
    · exact .inr (readParts_looseTime_of_separator _ _ (.inr ⟨rfl, hblank⟩) day time parts rest)
    · have hletter : isBlank c = false ∧ c.isDigit = false := by
        rcases hc with rfl | rfl | rfl
        · decide
        · decide
        · exact absurd rfl hblank
      exact .inl (readParts_looseTime_of_other _ _ (.inr ⟨rfl, hletter⟩) day parts _)

/-- A layout that has read the clock reads the fraction, if it has a part for it, and ends. -/
theorem readBy_after_clock {parts : List Part} (hparts : parts = [.fraction] ∨ parts = [])
    {text : List Char} (day : WrittenDay) (time : WrittenTime)
    (hrest : WrittenTime.EndsBefore rest)
    (h : readParts layout {} text =
      readParts parts (time.writeClock (day.write {})) (time.fractionText ++ rest)) :
    readBy layout text = none ∨
      rest = [] ∧ readBy layout text = (time.write (day.write {})).toInstant? := by
  rcases hparts with rfl | rfl
  · rw [readParts_cons_of_some (time.read_fraction hrest _)] at h
    by_cases hend : rest = []
    · subst hend
      exact .inr ⟨rfl, readBy_of_readParts h⟩
    · exact .inl (readBy_of_rest h hend)
  · by_cases hend : time.fractionText ++ rest = []
    · obtain ⟨hfraction, hend'⟩ := List.append_eq_nil_iff.mp hend
      have hnanos : time.nanos = 0 := by
        rw [time.nanos_eq, time.fractionText_eq_nil_iff.mp hfraction]
        decide
      have hfields : time.writeClock (day.write {}) = time.write (day.write {}) := by
        rw [WrittenTime.write, hnanos]
        rfl
      rw [hend, hfields] at h
      exact .inr ⟨hend', readBy_of_readParts h⟩
    · exact .inl (readBy_of_rest h hend)

/--
A loose layout reads a day and a time of day only if nothing follows, and then it reads the
instant of their numbers.
-/
theorem readBy_loose (day : WrittenDay) (time : WrittenTime) {c : Char}
    (hc : c = 'T' ∨ c = 't' ∨ c = ' ') (hrest : WrittenTime.EndsBefore rest)
    (hlayout : layout ∈ layouts.tail) :
    readBy layout (day.text ++ c :: (time.text ++ rest)) = none ∨
      rest = [] ∧ readBy layout (day.text ++ c :: (time.text ++ rest)) =
        (time.write (day.write {})).toInstant? := by
  have htimed (separator : Part) (hseparator : separator = .mark ['T'] ∨ separator = .gap)
      (parts : List Part) (hparts : parts = [.fraction] ∨ parts = []) :
      readBy (dayLayout ++ [separator] ++ looseTime ++ parts)
          (day.text ++ c :: (time.text ++ rest)) = none ∨
        rest = [] ∧ readBy (dayLayout ++ [separator] ++ looseTime ++ parts)
            (day.text ++ c :: (time.text ++ rest)) =
          (time.write (day.write {})).toInstant? := by
    have htext : time.text ++ rest = time.clock ++ (time.fractionText ++ rest) :=
      List.append_assoc _ _ _
    rw [htext]
    rcases readParts_loose hseparator hc day time parts (time.fractionText ++ rest) with h | h
    · exact .inl (readBy_of_none h)
    · exact readBy_after_clock hparts day time hrest h
  have hday : readBy dayLayout (day.text ++ c :: (time.text ++ rest)) = none := by
    have hread := day.readParts_dayLayout [] {} (c :: (time.text ++ rest))
    rw [List.append_nil] at hread
    exact readBy_of_rest hread (List.cons_ne_nil _ _)
  simp only [layouts, List.tail_cons, List.mem_cons, List.not_mem_nil, or_false] at hlayout
  rcases hlayout with rfl | rfl | rfl | rfl | rfl
  · exact htimed _ (.inl rfl) _ (.inl rfl)
  · simpa using htimed _ (.inl rfl) _ (.inr rfl)
  · exact htimed _ (.inr rfl) _ (.inl rfl)
  · simpa using htimed _ (.inr rfl) _ (.inr rfl)
  · exact .inl hday

/-! ### Texts that end too early -/

/-- The layout with an offset does not read a time of day alone. -/
theorem readBy_zoned_of_time {c : Char} (hc : c = 'T' ∨ c = ' ') (day : WrittenDay)
    (time : WrittenTime) : readBy zonedLayout (day.text ++ c :: time.text) = none := by
  apply readBy_of_none
  have hmark : c ∈ ['T', 't', ' '] := by
    rcases hc with rfl | rfl <;> simp
  have htime := time.readParts_strictTime [.zone] (day.write {}) WrittenTime.endsBefore_nil
  rw [List.append_nil] at htime
  simp only [zonedLayout, List.append_assoc, List.cons_append, List.nil_append]
  rw [day.readParts_strictDay, readParts_cons_of_some (read_mark_cons hmark _ _), htime]
  rfl

/-- The layout with an offset does not read a day alone. -/
theorem readBy_zoned_of_day (day : WrittenDay) : readBy zonedLayout day.text = none := by
  apply readBy_of_none
  have hread := day.readParts_strictDay ([.mark ['T', 't', ' ']] ++ strictTime ++ [.zone]) {} []
  rw [List.append_nil, ← List.append_assoc, ← List.append_assoc] at hread
  rw [zonedLayout, hread]
  rfl

/-- A loose layout for a time of day does not read a day alone. -/
theorem readBy_timed_of_day {text : List Char}
    (hday : readParts dayLayout {} text = some (fields, [])) {separator : Part}
    (hseparator : separator = .mark ['T'] ∨ separator = .gap) (parts : List Part) :
    readBy (dayLayout ++ [separator] ++ looseTime ++ parts) text = none := by
  rw [Option.eq_none_iff_forall_ne_some]
  intro t ht
  obtain ⟨_, hread, -⟩ := readBy_eq_some_iff.mp ht
  rw [List.append_assoc, List.append_assoc] at hread
  obtain ⟨between, after, hsame, htime⟩ := readParts_append_eq_some_iff.mp hread
  obtain ⟨-, rfl⟩ := Prod.mk.inj (Option.some.inj (hsame.symm.trans hday))
  have hnone : readParts ([separator] ++ (looseTime ++ parts)) between [] = none := by
    rcases hseparator with rfl | rfl <;> rfl
  rw [hnone] at htime
  simp at htime

/-! ### Whole texts -/

variable {before after : List Char}

/-- Blanks around a written timestamp do not count. -/
theorem trim_written (day : WrittenDay) {last : List Char} (hne : last ≠ [])
    (hlast : ∀ c ∈ last, isBlank c = false) (inner : List Char)
    (hbefore : ∀ c ∈ before, isBlank c = true) (hafter : ∀ c ∈ after, isBlank c = true) :
    Text.trim (before ++ (day.text ++ (inner ++ last)) ++ after) = day.text ++ (inner ++ last) := by
  have hstart := Text.isBlank_of_head?_append day.text_ne_nil (fun _ => day.isBlank_of_mem)
    (inner ++ last)
  have hend := Text.isBlank_of_getLast?_append hne hlast (day.text ++ inner)
  rw [List.append_assoc] at hend
  exact Text.trim_surrounded hbefore hafter hstart hend

/-- With an offset, the instant of the numbers is read. -/
theorem readTimestamp_zoned (day : WrittenDay) (time : WrittenTime) (zone : WrittenZone)
    {c : Char} (hc : c = 'T' ∨ c = 't' ∨ c = ' ') (hbefore : ∀ c ∈ before, isBlank c = true)
    (hafter : ∀ c ∈ after, isBlank c = true) :
    readTimestamp (String.ofList
        (before ++ (day.text ++ c :: (time.text ++ zone.text)) ++ after)) =
      (zone.write (time.write (day.write {}))).toInstant? := by
  have htrim := trim_written day zone.text_ne_nil (fun _ => zone.isBlank_of_mem)
    (c :: time.text) hbefore hafter
  rw [List.cons_append] at htrim
  apply readTimestamp_of_layouts
  · intro layout hlayout
    rw [String.toList_ofList, htrim]
    rcases List.mem_cons.mp hlayout with rfl | hloose
    · exact .inr (readBy_zoned day time zone hc)
    · rcases readBy_loose day time hc zone.endsBefore_text hloose with h | ⟨h, -⟩
      · exact .inl h
      · exact absurd h zone.text_ne_nil
  · rw [String.toList_ofList, htrim]
    exact ⟨zonedLayout, List.mem_cons_self, readBy_zoned day time zone hc⟩

/-- Without an offset, the instant of the numbers in universal time is read. -/
theorem readTimestamp_unzoned (day : WrittenDay) (time : WrittenTime) {c : Char}
    (hc : c = 'T' ∨ c = ' ') (hbefore : ∀ c ∈ before, isBlank c = true)
    (hafter : ∀ c ∈ after, isBlank c = true) :
    readTimestamp (String.ofList (before ++ (day.text ++ c :: time.text) ++ after)) =
      (time.write (day.write {})).toInstant? := by
  have htrim := trim_written day time.text_ne_nil (fun _ => time.isBlank_of_mem) [c] hbefore hafter
  rw [List.singleton_append] at htrim
  have hfraction (separator : Part)
      (hseparator : separator = .mark ['T'] ∧ c = 'T' ∨ separator = .gap ∧ c = ' ') :
      readBy (dayLayout ++ [separator] ++ looseTime ++ [.fraction]) (day.text ++ c :: time.text) =
        (time.write (day.write {})).toInstant? := by
    apply readBy_of_readParts
    have hread := time.read_fraction WrittenTime.endsBefore_nil (time.writeClock (day.write {}))
    rw [List.append_nil] at hread
    rw [WrittenTime.text, readParts_looseTime_of_separator _ _ hseparator,
      readParts_cons_of_some hread]
    rfl
  apply readTimestamp_of_layouts
  · intro layout hlayout
    rw [String.toList_ofList, htrim]
    rcases List.mem_cons.mp hlayout with rfl | hloose
    · exact .inl (readBy_zoned_of_time hc day time)
    · have hc' : c = 'T' ∨ c = 't' ∨ c = ' ' := by
        rcases hc with h | h
        · exact .inl h
        · exact .inr (.inr h)
      have hread := readBy_loose day time hc' WrittenTime.endsBefore_nil hloose
      rw [List.append_nil] at hread
      rcases hread with h | ⟨-, h⟩
      · exact .inl h
      · exact .inr h
  · rw [String.toList_ofList, htrim]
    rcases hc with rfl | rfl
    · exact ⟨_, by simp [layouts], hfraction (.mark ['T']) (.inl ⟨rfl, rfl⟩)⟩
    · exact ⟨_, by simp [layouts], hfraction .gap (.inr ⟨rfl, rfl⟩)⟩

/-- A day alone is read as its start. -/
theorem readTimestamp_day (day : WrittenDay) (hbefore : ∀ c ∈ before, isBlank c = true)
    (hafter : ∀ c ∈ after, isBlank c = true) :
    readTimestamp (String.ofList (before ++ day.text ++ after)) =
      (day.write {}).toInstant? := by
  have htrim : Text.trim (before ++ day.text ++ after) = day.text := by
    have hstart := Text.isBlank_of_head?_append day.text_ne_nil (fun _ => day.isBlank_of_mem) []
    have hend := Text.isBlank_of_getLast?_append day.text_ne_nil (fun _ => day.isBlank_of_mem) []
    rw [List.append_nil] at hstart
    exact Text.trim_surrounded hbefore hafter hstart hend
  have hday : readParts dayLayout {} day.text = some (day.write {}, []) := by
    have hread := day.readParts_dayLayout [] {} []
    rwa [List.append_nil, List.append_nil] at hread
  apply readTimestamp_of_layouts
  · intro layout hlayout
    rw [String.toList_ofList, htrim]
    simp only [layouts, List.mem_cons, List.not_mem_nil, or_false] at hlayout
    rcases hlayout with rfl | rfl | rfl | rfl | rfl | rfl
    · exact .inl (readBy_zoned_of_day day)
    · exact .inl (readBy_timed_of_day hday (.inl rfl) _)
    · exact .inl (by simpa using readBy_timed_of_day hday (.inl rfl) [])
    · exact .inl (readBy_timed_of_day hday (.inr rfl) _)
    · exact .inl (by simpa using readBy_timed_of_day hday (.inr rfl) [])
    · exact .inr (readBy_of_readParts hday)
  · rw [String.toList_ofList, htrim]
    exact ⟨dayLayout, by simp [layouts], readBy_of_readParts hday⟩

/-- Every spelling of a day and a time of day is read as their instant in universal time. -/
theorem readTimestamp_of_spells {text : String} {day : WrittenDay} {time : WrittenTime}
    (h : Spells text day time) :
    readTimestamp text = (time.write (day.write {})).toInstant? := by
  obtain ⟨before, inner, after, hinner, hbefore, hafter, rfl⟩ := h
  cases hinner with
  | letter => exact readTimestamp_unzoned day time (.inl rfl) hbefore hafter
  | space => exact readTimestamp_unzoned day time (.inr rfl) hbefore hafter
  | letterZone =>
    exact readTimestamp_zoned day time (.universal 'Z' (.inl rfl)) (.inl rfl) hbefore hafter
  | spaceZone =>
    exact readTimestamp_zoned day time (.universal 'Z' (.inl rfl)) (.inr (.inr rfl)) hbefore hafter
  | noOffset =>
    exact readTimestamp_zoned day time (.ahead .zero .zero (by decide)) (.inl rfl) hbefore hafter
  | alone => exact readTimestamp_day day hbefore hafter

end FacetedSearch.Time
