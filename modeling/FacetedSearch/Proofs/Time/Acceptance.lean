import FacetedSearch.Proofs.Time.Agreement
import FacetedSearch.Proofs.Time.Loose

/-!
# Which texts are timestamps

A text is a timestamp, blanks around it aside, if the strict layout or a loose one reads it: it is
a day and a time of day with an offset, or a loosely written day with or without a time of
day, and there are such a day and such a time. The documented forms are among these.
-/

namespace FacetedSearch.Time

open Text (isBlank)

variable {text : List Char}

/-- Numbers loosely written denote an instant if the day exists and the time is in range. -/
theorem exists_toInstant?_loose_iff (day : LooseDay) (time : LooseTime) :
    (∃ t, (time.write (day.write {})).toInstant? = some t) ↔ day.Exists ∧ time.InRange := by
  have hnanos := nanosOfDigits_lt time.isDigit_of_mem
  have hrange : (time.write (day.write {})).TimeInRange ↔ time.InRange := by
    simp only [Fields.TimeInRange, LooseTime.InRange, LooseTime.write]
    omega
  simp only [Fields.toInstant?_eq_some_iff, ← hrange]
  constructor
  · rintro ⟨t, hyear, date, hnames, htime, -⟩
    exact ⟨⟨hyear, date, hnames⟩, htime⟩
  · rintro ⟨⟨hyear, date, hnames⟩, htime⟩
    exact ⟨_, hyear, date, hnames, htime, rfl⟩

/-- A day alone has the time of its start. -/
theorem LooseDay.timeInRange_write (day : LooseDay) : (day.write {}).TimeInRange := by
  simp only [Fields.TimeInRange, write]
  decide

theorem exists_toInstant?_looseDay_iff (day : LooseDay) :
    (∃ t, (day.write {}).toInstant? = some t) ↔ day.Exists := by
  simp only [Fields.toInstant?_eq_some_iff]
  constructor
  · rintro ⟨t, hyear, date, hnames, -⟩
    exact ⟨hyear, date, hnames⟩
  · rintro ⟨hyear, date, hnames⟩
    exact ⟨_, hyear, date, hnames, day.timeInRange_write, rfl⟩

/-- The loose layouts read the loose forms of the days and times of day that there are. -/
theorem exists_readBy_loose_iff (hfirst : ∀ c ∈ text.head?, isBlank c = false) :
    (∃ layout ∈ layouts.tail, ∃ t, readBy layout text = some t) ↔ IsLoose text := by
  constructor
  · rintro ⟨layout, hlayout, t, ht⟩
    have hletter (h : readBy (dayLayout ++ [.mark ['T']] ++ looseTime ++ [.fraction]) text =
        some t) : IsLoose text := by
      obtain ⟨day, time, rfl, hinstant⟩ := (readBy_letter_eq_some_iff hfirst).mp h
      obtain ⟨hday, htime⟩ := (exists_toInstant?_loose_iff day time).mp ⟨t, hinstant⟩
      exact .letter hday htime
    have hgap (h : readBy (dayLayout ++ [.gap] ++ looseTime ++ [.fraction]) text = some t) :
        IsLoose text := by
      obtain ⟨day, time, rfl, hends, hinstant⟩ := (readBy_gap_eq_some_iff hfirst).mp h
      obtain ⟨hday, htime⟩ := (exists_toInstant?_loose_iff day time).mp ⟨t, hinstant⟩
      exact .apart hday htime ((LooseTime.endsBefore_text_iff _ _).mp hends)
    simp only [layouts, List.tail_cons, List.mem_cons, List.not_mem_nil, or_false] at hlayout
    rcases hlayout with rfl | rfl | rfl | rfl | rfl
    · exact hletter ht
    · exact hletter (readBy_append_fraction (by decide) ht)
    · exact hgap ht
    · exact hgap (readBy_append_fraction (by decide) ht)
    · obtain ⟨day, rfl, hinstant⟩ := (readBy_day_eq_some_iff hfirst).mp ht
      exact .day ((exists_toInstant?_looseDay_iff day).mp ⟨t, hinstant⟩)
  · intro h
    cases h with
    | @day day hday =>
      obtain ⟨t, ht⟩ := (exists_toInstant?_looseDay_iff day).mpr hday
      exact ⟨dayLayout, by simp [layouts], t, (readBy_day_eq_some_iff hfirst).mpr ⟨day, rfl, ht⟩⟩
    | @letter day time hday htime =>
      obtain ⟨t, ht⟩ := (exists_toInstant?_loose_iff day time).mpr ⟨hday, htime⟩
      exact ⟨_, by simp [layouts], t, (readBy_letter_eq_some_iff hfirst).mpr ⟨day, time, rfl, ht⟩⟩
    | @apart day time hday htime hends =>
      obtain ⟨t, ht⟩ := (exists_toInstant?_loose_iff day time).mpr ⟨hday, htime⟩
      exact ⟨_, by simp [layouts], t, (readBy_gap_eq_some_iff hfirst).mpr
        ⟨day, time, rfl, (LooseTime.endsBefore_text_iff _ _).mpr hends, ht⟩⟩

/-- A text is a timestamp if it has the strict form or a loose one, blanks around it aside. -/
theorem exists_readTimestamp_iff {text : String} :
    (∃ t, readTimestamp text = some t) ↔
      IsZoned (Text.trim text.toList) ∨ IsLoose (Text.trim text.toList) := by
  rw [← exists_readBy_zoned_iff, ← exists_readBy_loose_iff Text.isBlank_of_head?_trim]
  constructor
  · rintro ⟨t, ht⟩
    obtain ⟨layout, hlayout, hread⟩ := List.exists_of_findSome?_eq_some ht
    rcases List.mem_cons.mp hlayout with rfl | hloose
    · exact .inl ⟨t, hread⟩
    · exact .inr ⟨layout, hloose, t, hread⟩
  · rintro (⟨t, ht⟩ | ⟨layout, hlayout, t, ht⟩)
    · exact ⟨t, readTimestamp_of_readBy List.mem_cons_self ht⟩
    · exact ⟨t, readTimestamp_of_readBy (List.mem_of_mem_tail hlayout) ht⟩

/-! ### The documented forms -/

theorem WrittenDay.text_loose (day : WrittenDay) : day.loose.text = day.text := rfl

theorem WrittenDay.exists_loose (day : WrittenDay) (h : ∃ date, day.Names date) :
    day.loose.Exists := ⟨day.year_bounds, h⟩

theorem WrittenTime.text_loose (time : WrittenTime) (blanks : List Char)
    (hblanks : ∀ c ∈ blanks, isBlank c = true) :
    (time.loose blanks hblanks).text = blanks ++ time.text := by
  simp only [LooseTime.text, LooseTime.clock, LooseNumber.text, loose, Numeral.loose,
    WrittenTime.text, WrittenTime.clock, time.fractionText_eq, List.append_assoc, List.nil_append]

/-- The documented forms are read. -/
theorem IsDocumented.zoned_or_loose (h : IsDocumented text) : IsZoned text ∨ IsLoose text := by
  cases h with
  | zoned h => exact .inl h
  | @timed day separator time hseparator hday htime =>
    refine .inr ?_
    rcases hseparator with rfl | rfl
    · have hletter : IsLoose (day.loose.text ++ 'T' :: (time.loose [] (by simp)).text) :=
        .letter (day.exists_loose hday) htime
      rwa [day.text_loose, time.text_loose] at hletter
    · have hblank : ∀ c ∈ [' '], isBlank c = true := List.all_eq_true.mp rfl
      have hapart : IsLoose (day.loose.text ++ (time.loose [' '] hblank).text) :=
        .apart (day.exists_loose hday) htime (.inr (List.cons_ne_nil _ _))
      rwa [day.text_loose, time.text_loose] at hapart
  | @day day hday => exact .inr (.day (day.exists_loose hday))

theorem WrittenDay.length_text (day : WrittenDay) : day.text.length = 10 := by
  simp [text, day.year.length_digits, day.month.length_digits, day.day.length_digits]

/-- In a documented form a separator follows the ten characters of the day, if anything does. -/
theorem IsDocumented.separator_of_head?_drop (h : IsDocumented text) :
    ∀ c ∈ (text.drop 10).head?, c = 'T' ∨ c = 't' ∨ c = ' ' := by
  intro c hc
  cases h with
  | zoned h =>
    obtain ⟨zone, hseparator, -, -⟩ := h
    rw [List.drop_left' (WrittenDay.length_text _)] at hc
    obtain rfl := Option.some.inj hc
    exact hseparator
  | @timed day separator time hseparator =>
    rw [List.drop_left' day.length_text] at hc
    obtain rfl := Option.some.inj hc
    exact hseparator.imp_right .inr
  | @day day =>
    rw [List.drop_of_length_le (Nat.le_of_eq day.length_text)] at hc
    simp at hc

end FacetedSearch.Time
