import FacetedSearch.Proofs.Facet.Inertness
import FacetedSearch.Proofs.Text.AsciiCase

/-!
# What a seller's text asks for

The forms of free text are told apart in the lower-cased text, and they are the forms of the text as
it was typed: it is quoted, has an at sign or is a licence serial in either letter case exactly if
its lower-case form is or has. So a text that was typed is blank, a quoted phrase or a list of
alternatives, and no text is both an address and a serial.
-/

namespace FacetedSearch

namespace FreeText

variable {text : List Char}

/-! ### Quotes -/

theorem isSign_quote : Text.IsSign '"' := ⟨by decide, by decide⟩

theorem isSign_at : Text.IsSign '@' := ⟨by decide, by decide⟩

theorem isSign_hyphen : Text.IsSign '-' := ⟨by decide, by decide⟩

/-- A text is quoted if it begins and ends with a double quote and has no third. -/
theorem exists_isQuoted_iff :
    (∃ inner, IsQuoted text inner) ↔
      text.head? = some '"' ∧ text.getLast? = some '"' ∧ text.count '"' = 2 := by
  constructor
  · rintro ⟨inner, rfl, hinner⟩
    refine ⟨rfl, ?_, ?_⟩
    · rw [← List.cons_append, List.getLast?_concat]
    · simp [List.count_eq_zero.mpr hinner]
  · rintro ⟨hfirst, hlast, hcount⟩
    obtain ⟨rest, rfl⟩ := List.head?_eq_some_iff.mp hfirst
    rw [List.count_cons_self] at hcount
    rcases List.eq_nil_or_concat rest with rfl | ⟨inner, last, rfl⟩
    · simp at hcount
    · rw [List.concat_eq_append, ← List.cons_append, List.getLast?_concat] at hlast
      obtain rfl := Option.some.inj hlast
      rw [List.concat_eq_append, List.count_append, List.count_singleton_self] at hcount
      have hinner : inner.count '"' = 0 := by omega
      exact ⟨inner, by rw [List.concat_eq_append], List.count_eq_zero.mp hinner⟩

/-- A text is quoted before it is lower-cased if it is afterwards. -/
theorem exists_isQuoted_lower_iff :
    (∃ inner, IsQuoted (Text.lower text) inner) ↔ ∃ inner, IsQuoted text inner := by
  have hquote := isSign_quote.isKept
  simp only [exists_isQuoted_iff, Text.lower, Text.head?_lowerAfter_eq_some_iff hquote,
    Text.getLast?_lowerAfter_eq_some_iff hquote, Text.count_lowerAfter hquote]

/-! ### Addresses and serials -/

/-- An at sign is typed if there is one after lower-casing. -/
theorem mem_lower_at_iff : '@' ∈ Text.lower text ↔ '@' ∈ text :=
  Text.mem_lowerAfter_iff isSign_at.isKept

/-- A hexadecimal digit in either letter case. -/
def isHex (c : Char) : Bool := isLowerHex c || ('A' ≤ c && c ≤ 'F')

/-- Eight hexadecimal digits in either letter case. -/
def IsHexGroup (group : List Char) : Prop :=
  group.length = 8 ∧ ∀ c ∈ group, isHex c = true

/-- A licence serial in either letter case: four groups joined by hyphens. -/
def IsTypedSerial (text : List Char) : Prop :=
  ∃ a b c d, IsHexGroup a ∧ IsHexGroup b ∧ IsHexGroup c ∧ IsHexGroup d ∧
    text = a ++ '-' :: (b ++ '-' :: (c ++ '-' :: d))

theorem isPlain_of_isHex {c : Char} (h : isHex c = true ∨ c = '-') : Text.IsPlain c := by
  rcases h with hhex | rfl
  · have hascii : Text.IsAscii c := by
      have hcode : (48 ≤ c.toNat ∧ c.toNat ≤ 57 ∨ 97 ≤ c.toNat ∧ c.toNat ≤ 102) ∨
          65 ≤ c.toNat ∧ c.toNat ≤ 70 := by
        simpa [isHex, isLowerHex, Char.isDigit, Char.le_def, UInt32.le_iff_toNat_le] using hhex
      rw [Text.IsAscii]
      omega
    refine ⟨hascii, ?_, ?_⟩
    · rintro rfl
      exact absurd hhex (by decide)
    · rintro rfl
      exact absurd hhex (by decide)
  · exact ⟨by decide, by decide, by decide⟩

/-- Nothing but hexadecimal digits and hyphens is in a serial. -/
theorem IsTypedSerial.isHex_of_mem (h : IsTypedSerial text) :
    ∀ c ∈ text, isHex c = true ∨ c = '-' := by
  obtain ⟨group₁, group₂, group₃, group₄, h₁, h₂, h₃, h₄, rfl⟩ := h
  intro c hc
  simp only [List.mem_append, List.mem_cons] at hc
  rcases hc with hc | hc | hc | hc | hc | hc | hc
  · exact .inl (h₁.2 c hc)
  · exact .inr hc
  · exact .inl (h₂.2 c hc)
  · exact .inr hc
  · exact .inl (h₃.2 c hc)
  · exact .inr hc
  · exact .inl (h₄.2 c hc)

theorem IsTypedSerial.isAscii (h : IsTypedSerial text) : ∀ c ∈ text, Text.IsAscii c :=
  fun c hc => (isPlain_of_isHex (h.isHex_of_mem c hc)).1

/-- A serial in lower case is one in either. -/
theorem IsSerial.isTypedSerial (h : IsSerial text) : IsTypedSerial text := by
  have hgroup {group : List Char} (h : IsSerialGroup group) : IsHexGroup group :=
    ⟨h.1, fun c hc => by rw [isHex, h.2 c hc, Bool.true_or]⟩
  obtain ⟨a, b, c, d, ha, hb, hc, hd, rfl⟩ := h
  exact ⟨a, b, c, d, hgroup ha, hgroup hb, hgroup hc, hgroup hd, rfl⟩

/-- Eight hexadecimal digits are such in lower case too. -/
theorem isSerialGroup_map_toLower_iff {group : List Char} (h : ∀ c ∈ group, Text.IsAscii c) :
    IsSerialGroup (group.map Char.toLower) ↔ IsHexGroup group := by
  rw [IsSerialGroup, IsHexGroup, List.length_map, List.forall_mem_map]
  refine and_congr_right fun _ => forall₂_congr fun c hc => ?_
  have hdigit : isLowerHex c.toLower = isHex c :=
    Text.forall_isAscii (p := fun c => isLowerHex c.toLower = isHex c) (by decide +kernel) (h c hc)
  rw [hdigit]

/-- A text is a serial in either letter case if it is one in lower case. -/
theorem isSerial_map_toLower_iff (h : ∀ c ∈ text, Text.IsAscii c) :
    IsSerial (text.map Char.toLower) ↔ IsTypedSerial text := by
  constructor
  · rintro ⟨_, _, _, _, ha, hb, hc, hd, hmap⟩
    simp only [List.map_eq_append_iff, List.map_eq_cons_iff] at hmap
    obtain ⟨a, _, rfl, rfl, _, _, rfl, hfirst, b, _, rfl, rfl, _, _, rfl, hsecond,
      c, _, rfl, rfl, _, d, rfl, hthird, rfl⟩ := hmap
    simp only [List.forall_mem_append, List.forall_mem_cons] at h
    obtain ⟨ha', -, hb', -, hc', -, hd'⟩ := h
    obtain rfl := Text.eq_of_toLower_eq isSign_hyphen hfirst
    obtain rfl := Text.eq_of_toLower_eq isSign_hyphen hsecond
    obtain rfl := Text.eq_of_toLower_eq isSign_hyphen hthird
    exact ⟨a, b, c, d, (isSerialGroup_map_toLower_iff ha').mp ha,
      (isSerialGroup_map_toLower_iff hb').mp hb, (isSerialGroup_map_toLower_iff hc').mp hc,
      (isSerialGroup_map_toLower_iff hd').mp hd, rfl⟩
  · rintro ⟨a, b, c, d, ha, hb, hc, hd, rfl⟩
    simp only [List.forall_mem_append, List.forall_mem_cons] at h
    obtain ⟨ha', -, hb', -, hc', -, hd'⟩ := h
    simp only [List.map_append, List.map_cons]
    exact ⟨_, _, _, _, (isSerialGroup_map_toLower_iff ha').mpr ha,
      (isSerialGroup_map_toLower_iff hb').mpr hb, (isSerialGroup_map_toLower_iff hc').mpr hc,
      (isSerialGroup_map_toLower_iff hd').mpr hd, rfl⟩

/-- A serial that was typed is one after lower-casing, and no other text is. -/
theorem isSerial_lower_iff : IsSerial (Text.lower text) ↔ IsTypedSerial text := by
  constructor
  · intro h
    have hascii : ∀ c ∈ text, Text.IsAscii c := Text.isAscii_of_lowerAfter fun c hc =>
      isPlain_of_isHex (h.isTypedSerial.isHex_of_mem c hc)
    rw [Text.lower, Text.lowerAfter_of_isAscii hascii] at h
    exact (isSerial_map_toLower_iff hascii).mp h
  · intro h
    rw [Text.lower, Text.lowerAfter_of_isAscii h.isAscii]
    exact (isSerial_map_toLower_iff h.isAscii).mpr h

/-- In capital letters a serial is the same before and after lower-casing. -/
theorem map_toUpper_lower (h : IsTypedSerial text) :
    (Text.lower text).map Char.toUpper = text.map Char.toUpper := by
  rw [Text.lower, Text.lowerAfter_of_isAscii h.isAscii, List.map_map]
  refine List.map_congr_left fun c hc => ?_
  exact Text.forall_isAscii (p := fun c => c.toLower.toUpper = c.toUpper) (by decide +kernel)
    (h.isAscii c hc)

/-- No serial has an at sign. -/
theorem IsTypedSerial.not_mem_at (h : IsTypedSerial text) : '@' ∉ text := by
  intro hat
  have hhex := h.isHex_of_mem '@' hat
  exact absurd hhex (by decide)

/-! ### The alternatives -/

/-- What a text that is no phrase may be: words, an address or a serial, as it was typed. -/
theorem sellerAlternatives_lower (box : SellerBox) (fuzziness : String) :
    ∃ emails serials,
      sellerAlternatives box fuzziness (Text.lower text) =
        .fuzzy box.fuzzyFields (String.ofList (Text.lower text)) fuzziness ::
          (emails ++ serials) ∧
      ('@' ∈ text → emails = box.emailFields.map fun field =>
        .term field (.string (String.ofList (Text.lower text)))) ∧
      ('@' ∉ text → emails = []) ∧
      (IsTypedSerial text → serials =
        [.term box.serialField (.string (String.ofList (text.map Char.toUpper)))]) ∧
      (¬ IsTypedSerial text → serials = []) := by
  refine ⟨_, _, rfl, fun hat => ?_, fun hat => ?_, fun hserial => ?_, fun hserial => ?_⟩
  · exact if_pos (mem_lower_at_iff.mpr hat)
  · exact if_neg (mt mem_lower_at_iff.mp hat)
  · have hfits := (fits_serialPattern_iff _).mpr (isSerial_lower_iff.mpr hserial)
    rw [if_pos hfits, map_toUpper_lower hserial]
  · exact if_neg fun hfits =>
      hserial (isSerial_lower_iff.mp ((fits_serialPattern_iff _).mp hfits))

/-- Nothing is made of a seller's text exactly if it is idle. -/
theorem sellerQuery_eq_empty_iff (box : SellerBox) (fuzziness text : String) :
    sellerQuery box fuzziness text = .empty ↔ IsIdleForSeller text := by
  constructor
  · intro h
    have hconditions : (sellerQuery box fuzziness text).conditions = 0 := by
      rw [h]
      rfl
    exact isIdleForSeller_of_conditions hconditions
  · exact sellerQuery_of_isIdle box fuzziness

end FreeText

/--
A seller's text, without the blanks around it, is in one of three cases. Nothing is made of
a text that is empty or has only blanks between two double quotes. Any other text in double quotes
with none inside asks for all of its words, in lower case and without the blanks at their ends. All
other texts ask for one of several alternatives: something that resembles the text in lower
case; if there is an at sign, an address that is this; and if the text is a licence serial in
either letter case, the serial in capital letters. No text is an address and a serial.
-/
theorem seller_text_cases (box : SellerBox) {settings : Settings} (configuration : Configuration)
    {text : String} (h : settings.text box.option = some text) :
    ((Facet.sellerText box).contribution settings configuration = .empty ↔
      Text.trim text.toList = [] ∨ ∃ inner, Text.trim text.toList = '"' :: (inner ++ ['"']) ∧
        ∀ c ∈ inner, Text.isBlank c = true) ∧
    (∀ inner, FreeText.IsQuoted (Text.trim text.toList) inner →
      (∃ c ∈ inner, Text.isBlank c = false) →
        ∃ spoken, Text.lower (Text.trim text.toList) = '"' :: (spoken ++ ['"']) ∧
          (Facet.sellerText box).contribution settings configuration =
            { must := [.words box.phraseField (String.ofList (Text.trim spoken)) .all] }) ∧
    (Text.trim text.toList ≠ [] →
      (∀ inner, ¬ FreeText.IsQuoted (Text.trim text.toList) inner) → ∃ emails serials,
        (Facet.sellerText box).contribution settings configuration =
          { must := [.group {
              should := .fuzzy box.fuzzyFields
                (String.ofList (Text.lower (Text.trim text.toList))) configuration.fuzziness ::
                  (emails ++ serials)
              minimum := some 1 }] } ∧
        ('@' ∈ Text.trim text.toList → emails = box.emailFields.map fun field =>
          .term field (.string (String.ofList (Text.lower (Text.trim text.toList))))) ∧
        ('@' ∉ Text.trim text.toList → emails = []) ∧
        (FreeText.IsTypedSerial (Text.trim text.toList) → serials =
          [.term box.serialField
            (.string (String.ofList ((Text.trim text.toList).map Char.toUpper)))]) ∧
        (¬ FreeText.IsTypedSerial (Text.trim text.toList) → serials = [])) ∧
    ¬ ('@' ∈ Text.trim text.toList ∧ FreeText.IsTypedSerial (Text.trim text.toList)) := by
  have hquery : (Facet.sellerText box).contribution settings configuration =
      FreeText.sellerQuery box configuration.fuzziness text := by
    rw [Facet.contribution, h]
  have hidle : FreeText.IsIdleForSeller text ↔
      Text.trim text.toList = [] ∨ ∃ inner, Text.trim text.toList = '"' :: (inner ++ ['"']) ∧
        ∀ c ∈ inner, Text.isBlank c = true := by
    rw [FreeText.IsIdleForSeller, FreeText.canonical_eq_nil_iff,
      FreeText.phrase?_canonical_eq_nil_iff]
  have hcases := FreeText.sellerQuery_cases box configuration.fuzziness text
  rw [hquery]
  refine ⟨(FreeText.sellerQuery_eq_empty_iff box _ text).trans hidle, ?_, ?_, ?_⟩
  · rintro inner hquoted ⟨c, hc, hvisible⟩
    obtain ⟨spoken, hspoken⟩ := FreeText.exists_isQuoted_lower_iff.mpr ⟨inner, hquoted⟩
    have hphrase : FreeText.phrase? (FreeText.canonical text) = some (Text.trim spoken) :=
      FreeText.phrase?_eq_some_iff.mpr ⟨spoken, hspoken, rfl⟩
    rcases hcases with hnothing | ⟨phrase, -, hfound, hwords⟩ | ⟨-, hnone, -⟩
    · rcases hidle.mp hnothing with hempty | ⟨inner', hinner', hblank⟩
      · simp [hquoted.1] at hempty
      · have hsame := hquoted.1.symm.trans hinner'
        obtain rfl := List.append_cancel_right (List.cons.inj hsame).2
        exact absurd (hblank c hc) (ne_true_of_eq_false hvisible)
    · obtain rfl := Option.some.inj (hfound.symm.trans hphrase)
      exact ⟨spoken, hspoken.1, hwords⟩
    · simp [hnone] at hphrase
  · intro hne hquoted
    have hphrase : FreeText.phrase? (FreeText.canonical text) = none := by
      refine FreeText.phrase?_eq_none_iff.mpr fun spoken hspoken => ?_
      obtain ⟨inner, hinner⟩ := FreeText.exists_isQuoted_lower_iff.mp ⟨spoken, hspoken⟩
      exact hquoted inner hinner
    rcases hcases with hempty | ⟨phrase, -, hfound, -⟩ | ⟨-, -, halternatives⟩
    · rcases hempty with hempty | hblank
      · exact absurd ((FreeText.canonical_eq_nil_iff text).mp hempty) hne
      · simp [hphrase] at hblank
    · simp [hphrase] at hfound
    · obtain ⟨emails, serials, hclauses, hrest⟩ :=
        FreeText.sellerAlternatives_lower box configuration.fuzziness
      refine ⟨emails, serials, ?_, hrest⟩
      rw [halternatives, FreeText.canonical, hclauses]
      rfl
  · rintro ⟨hat, hserial⟩
    exact hserial.not_mem_at hat

/-- A licence serial in both letter cases with a blank before it is looked for in capitals. -/
theorem serial_in_both_cases :
    (Facet.sellerText ⟨"seller_query", "full_name", ["full_name"], ["email.raw"],
        "license_serial"⟩).contribution
        ⟨NameMap.empty.insert "seller_query"
          (.text (some "\t01234567-89ABcdef-00000000-FFFFFFFF"))⟩ {} =
      { must := [.group {
          should := [
            .fuzzy ["full_name"] "01234567-89abcdef-00000000-ffffffff" "AUTO",
            .term "license_serial" (.string "01234567-89ABCDEF-00000000-FFFFFFFF")]
          minimum := some 1 }] } := by
  let box : SellerBox :=
    ⟨"seller_query", "full_name", ["full_name"], ["email.raw"], "license_serial"⟩
  let settings : Settings := ⟨NameMap.empty.insert "seller_query"
    (.text (some "\t01234567-89ABcdef-00000000-FFFFFFFF"))⟩
  have htext : settings.text box.option = some "\t01234567-89ABcdef-00000000-FFFFFFFF" := rfl
  have htrim : Text.trim "\t01234567-89ABcdef-00000000-FFFFFFFF".toList =
      "01234567-89ABcdef-00000000-FFFFFFFF".toList := by decide +kernel
  have hgroup (group : List Char) (h : group.length = 8 ∧ group.all FreeText.isHex = true) :
      FreeText.IsHexGroup group := ⟨h.1, List.all_eq_true.mp h.2⟩
  have hserial : FreeText.IsTypedSerial "01234567-89ABcdef-00000000-FFFFFFFF".toList :=
    ⟨"01234567".toList, "89ABcdef".toList, "00000000".toList, "FFFFFFFF".toList,
      hgroup _ (by decide), hgroup _ (by decide), hgroup _ (by decide), hgroup _ (by decide), rfl⟩
  have hquoted : ∀ inner,
      ¬ FreeText.IsQuoted "01234567-89ABcdef-00000000-FFFFFFFF".toList inner := by
    rintro inner ⟨h, -⟩
    have hfirst : '0' = '"' := Option.some.inj (congrArg List.head? h)
    exact absurd hfirst (by decide)
  obtain ⟨-, -, hcases, -⟩ := seller_text_cases box {} htext
  rw [htrim] at hcases
  obtain ⟨emails, serials, hcontribution, -, hemails, hserials, -⟩ := hcases (by decide) hquoted
  rw [hcontribution, hemails hserial.not_mem_at, hserials hserial]
  have hlower : String.ofList (Text.lower "01234567-89ABcdef-00000000-FFFFFFFF".toList) =
      "01234567-89abcdef-00000000-ffffffff" := by decide +kernel
  have hupper : String.ofList ("01234567-89ABcdef-00000000-FFFFFFFF".toList.map Char.toUpper) =
      "01234567-89ABCDEF-00000000-FFFFFFFF" := by decide +kernel
  rw [hlower, hupper]
  rfl

end FacetedSearch
