import Mathlib.Tactic.IntervalCases
import FacetedSearch.Json.Token
import FacetedSearch.Json.Written

/-!
# Strings of JSON text

However a string is written, it is scanned up to its closing quote and decoded to its content.
-/

namespace FacetedSearch.Json

theorem hexValue?_of_isHexDigit {digit : Char} {value : Nat} (h : IsHexDigit digit value) :
    hexValue? digit = some value := by
  have hvalue : value < 16 := by
    rcases h with h | h <;> exact (List.getElem?_eq_some_iff.mp h).1
  rcases h with h | h <;> interval_cases value <;> obtain rfl := Option.some.inj h <;> rfl

theorem escapedChar?_of_mem {letter c : Char} (h : (letter, c) ∈ escapes) :
    escapedChar? letter = some c := by
  simp only [escapes, List.mem_cons, Prod.mk.injEq, List.not_mem_nil, or_false] at h
  rcases h with h | h | h | h | h | h | h | h <;> obtain ⟨rfl, rfl⟩ := h <;> rfl

/-! ### Scanning one character -/

section Scan

variable (rest : List Char)

theorem scanString_itself {c : Char} (hcontrol : 0x20 ≤ c.toNat) (hquote : c ≠ '"')
    (hbackslash : c ≠ '\\') :
    scanString (c :: rest) = (scanString rest).map fun r => (.char c :: r.1, r.2) := by
  have hnot : ¬ (c = '\\' ∨ c.toNat < 0x20) := by simp [hbackslash, hcontrol]
  rw [scanString, if_neg hnot] <;> simp_all [Option.map_eq_bind]

theorem scanString_escape {letter c : Char} (h : (letter, c) ∈ escapes) :
    scanString ('\\' :: letter :: rest) = (scanString rest).map fun r => (.char c :: r.1, r.2) := by
  have hletter : letter ≠ 'u' := by
    rintro rfl
    simp [escapes] at h
  rw [scanString]
  · simp [escapedChar?_of_mem h, Option.map_eq_bind]
  · simp [hletter]

theorem scanString_unit {digits : List Char} {code : Nat} (h : IsCodeUnit digits code) :
    scanString ('\\' :: 'u' :: (digits ++ rest)) =
      (scanString rest).map fun r => (.unit code :: r.1, r.2) := by
  obtain ⟨ha, hb, hc, hd⟩ := h
  simp [scanString, unitOfDigits?, hexValue?_of_isHexDigit ha, hexValue?_of_isHexDigit hb,
    hexValue?_of_isHexDigit hc, hexValue?_of_isHexDigit hd, Option.map_eq_bind]

end Scan

/-! ### Decoding one character -/

/-- No character is half of a surrogate pair. -/
theorem not_surrogate (c : Char) :
    isHighSurrogate c.toNat = false ∧ isLowSurrogate c.toNat = false := by
  have hvalid : c.toNat < 0xD800 ∨ 0xDFFF < c.toNat ∧ c.toNat < 0x110000 := c.valid
  simp only [isHighSurrogate, isLowSurrogate, Bool.and_eq_false_iff, decide_eq_false_iff_not]
  omega

theorem decodePieces?_unit (c : Char) (pieces : List Piece) :
    decodePieces? (.unit c.toNat :: pieces) = (decodePieces? pieces).map (c :: ·) := by
  obtain ⟨hhigh, hlow⟩ := not_surrogate c
  -- a unit before another unit is looked at together with it
  cases pieces with
  | nil => simp [decodePieces?, hhigh, hlow]
  | cons piece pieces => cases piece <;> simp [decodePieces?, hhigh, hlow]

theorem decodePieces?_pair {a b : Nat} {c : Char} (ha : a < 0x400) (hb : b < 0x400)
    (hc : c.toNat = 0x10000 + 0x400 * a + b) (pieces : List Piece) :
    decodePieces? (.unit (0xD800 + a) :: .unit (0xDC00 + b) :: pieces) =
      (decodePieces? pieces).map (c :: ·) := by
  have hhigh : isHighSurrogate (0xD800 + a) = true := by
    simp only [isHighSurrogate, Bool.and_eq_true, decide_eq_true_eq]
    omega
  have hlow : isLowSurrogate (0xDC00 + b) = true := by
    simp only [isLowSurrogate, Bool.and_eq_true, decide_eq_true_eq]
    omega
  have hcode : 0x10000 + 0x400 * (0xD800 + a - 0xD800) + (0xDC00 + b - 0xDC00) = c.toNat := by omega
  rw [decodePieces?, if_pos hhigh, if_pos hlow, hcode, Char.ofNat_toNat]

/-! ### Texts -/

/-- One written character becomes pieces that stand for it before any others. -/
theorem SpellsChar.exists_pieces {text : List Char} {c : Char} (h : SpellsChar text c) :
    ∃ first : List Piece,
      (∀ rest, scanString (text ++ rest) =
        (scanString rest).map fun r => (first ++ r.1, r.2)) ∧
      ∀ pieces, decodePieces? (first ++ pieces) = (decodePieces? pieces).map (c :: ·) := by
  cases h with
  | itself hcontrol hquote hbackslash =>
    exact ⟨[.char c], fun rest => scanString_itself rest hcontrol hquote hbackslash,
      fun _ => by simp [decodePieces?]⟩
  | escape hletter =>
    exact ⟨[.char c], fun rest => scanString_escape rest hletter, fun _ => by simp [decodePieces?]⟩
  | unit hdigits =>
    exact ⟨[.unit c.toNat], fun rest => scanString_unit rest hdigits, decodePieces?_unit c⟩
  | @pair first second a b _ hfirst hsecond ha hb hc =>
    refine ⟨[.unit (0xD800 + a), .unit (0xDC00 + b)], fun rest => ?_, decodePieces?_pair ha hb hc⟩
    have hscan := scanString_unit ('\\' :: 'u' :: (second ++ rest)) hfirst
    rw [scanString_unit rest hsecond, Option.map_map] at hscan
    simpa [Function.comp_def] using hscan

/-- A written string is scanned up to the quote after it and decoded to its content. -/
theorem SpellsText.exists_pieces {text content : List Char} (h : SpellsText text content) :
    ∃ pieces, (∀ rest, scanString (text ++ '"' :: rest) = some (pieces, rest)) ∧
      decodePieces? pieces = some content := by
  induction h with
  | nil => exact ⟨[], fun _ => rfl, rfl⟩
  | cons hc _ ih =>
    obtain ⟨first, hscan, hdecode⟩ := hc.exists_pieces
    obtain ⟨pieces, hscanRest, hdecodeRest⟩ := ih
    refine ⟨first ++ pieces, fun rest => ?_, ?_⟩
    · rw [List.append_assoc, hscan, hscanRest]
      rfl
    · rw [hdecode, hdecodeRest]
      rfl

/-- The text of a string is one token, and the token denotes the string. -/
theorem IsStringText.exists_token {content : String} {text : List Char}
    (h : IsStringText content text) :
    ∃ pieces, (∀ rest, scanToken (text ++ rest) = some (.string pieces, rest)) ∧
      decode? pieces = some content := by
  obtain ⟨hinner⟩ := h
  obtain ⟨pieces, hscan, hdecode⟩ := hinner.exists_pieces
  refine ⟨pieces, fun rest => ?_, ?_⟩
  · rw [List.cons_append, List.append_assoc, List.singleton_append, scanToken, hscan]
    rfl
  · rw [decode?, hdecode, Option.map_some, String.ofList_toList]

/-! ### Every text can be written -/

theorem areSpaces_nil : AreSpaces [] := by simp [AreSpaces]

theorem exists_isHexDigit {value : Nat} (h : value < 16) : ∃ digit, IsHexDigit digit value :=
  ⟨_, .inl (List.getElem?_eq_getElem h)⟩

theorem exists_isCodeUnit {code : Nat} (h : code < 0x10000) : ∃ digits, IsCodeUnit digits code := by
  obtain ⟨a, ha⟩ := exists_isHexDigit (show code / 4096 < 16 by omega)
  obtain ⟨b, hb⟩ := exists_isHexDigit (show code / 256 % 16 < 16 by omega)
  obtain ⟨c, hc⟩ := exists_isHexDigit (show code / 16 % 16 < 16 by omega)
  obtain ⟨d, hd⟩ := exists_isHexDigit (show code % 16 < 16 by omega)
  have hcode : 4096 * (code / 4096) + 256 * (code / 256 % 16) + 16 * (code / 16 % 16) + code % 16 =
      code := by omega
  exact ⟨[a, b, c, d], hcode ▸ .digits ha hb hc hd⟩

/-- Every character can be escaped, as one unit or as a pair. -/
theorem exists_spellsChar (c : Char) : ∃ text, SpellsChar text c := by
  have hvalid : c.toNat < 0xD800 ∨ 0xDFFF < c.toNat ∧ c.toNat < 0x110000 := c.valid
  by_cases hsmall : c.toNat < 0x10000
  · obtain ⟨digits, hdigits⟩ := exists_isCodeUnit hsmall
    exact ⟨_, .unit hdigits⟩
  · have ha : (c.toNat - 0x10000) / 0x400 < 0x400 := by omega
    have hb : (c.toNat - 0x10000) % 0x400 < 0x400 := by omega
    obtain ⟨first, hfirst⟩ :=
      exists_isCodeUnit (show 0xD800 + (c.toNat - 0x10000) / 0x400 < 0x10000 by omega)
    obtain ⟨second, hsecond⟩ :=
      exists_isCodeUnit (show 0xDC00 + (c.toNat - 0x10000) % 0x400 < 0x10000 by omega)
    exact ⟨_, .pair hfirst hsecond ha hb (by omega)⟩

theorem exists_spellsText (content : List Char) : ∃ text, SpellsText text content := by
  induction content with
  | nil => exact ⟨[], .nil⟩
  | cons c content ih =>
    obtain ⟨text, htext⟩ := exists_spellsChar c
    obtain ⟨rest, hrest⟩ := ih
    exact ⟨_, .cons htext hrest⟩

theorem exists_isStringText (content : String) : ∃ text, IsStringText content text := by
  obtain ⟨inner, hinner⟩ := exists_spellsText content.toList
  exact ⟨_, .quoted hinner⟩

/-- A text without quotes, backslashes and control characters is written as it is. -/
theorem spellsText_self {content : List Char}
    (h : content.all (fun c => 0x20 ≤ c.toNat && c != '"' && c != '\\') = true) :
    SpellsText content content := by
  induction content with
  | nil => exact .nil
  | cons c content ih =>
    simp only [List.all_cons, Bool.and_eq_true, decide_eq_true_eq, bne_iff_ne] at h
    obtain ⟨⟨⟨hcontrol, hquote⟩, hbackslash⟩, hrest⟩ := h
    exact .cons (.itself hcontrol hquote hbackslash) (ih hrest)

end FacetedSearch.Json
