/-!
# Blank characters

The characters that count as white space around a text or a field: the twenty-five
characters with that property among all of Unicode. `trim` takes them away
at both ends, and only there.
-/

namespace FacetedSearch.Text

/-- Whether a character is white space. -/
def isBlank (c : Char) : Bool :=
  let code := c.toNat
  (0x9 ≤ code && code ≤ 0xD) || code == 0x20 || code == 0x85 || code == 0xA0 || code == 0x1680 ||
    (0x2000 ≤ code && code ≤ 0x200A) || code == 0x2028 || code == 0x2029 || code == 0x202F ||
    code == 0x205F || code == 0x3000

/-- The text from its first character that is not blank. -/
def skipBlank (text : List Char) : List Char := text.dropWhile isBlank

/-- The text up to its last character that is not blank. -/
def dropTrailingBlank (text : List Char) : List Char := (skipBlank text.reverse).reverse

/-- The text without the blank characters at its ends. -/
def trim (text : List Char) : List Char := dropTrailingBlank (skipBlank text)

/-- Whether a text holds nothing but blank characters. -/
def allBlank (text : String) : Bool := text.toList.all isBlank

/-- Nothing is left of a text exactly if all of it is blank. -/
theorem skipBlank_eq_nil_iff (text : List Char) :
    skipBlank text = [] ↔ text.all isBlank = true := by
  induction text with
  | nil => simp [skipBlank]
  | cons c rest ih =>
    by_cases hc : isBlank c = true
    · rw [skipBlank, List.dropWhile_cons_of_pos hc, List.all_cons, hc, Bool.true_and]
      exact ih
    · simp [skipBlank, hc]

/-- What is left of a text after its leading blanks is blank exactly if all of the text is. -/
theorem all_isBlank_skipBlank (text : List Char) :
    (skipBlank text).all isBlank = text.all isBlank := by
  induction text with
  | nil => rfl
  | cons c rest ih =>
    by_cases hc : isBlank c = true
    · simpa [skipBlank, hc] using ih
    · simp [skipBlank, hc]

/-- A text is trimmed to nothing exactly if all of it is blank. -/
theorem trim_eq_nil_iff (text : List Char) : trim text = [] ↔ text.all isBlank = true := by
  rw [trim, dropTrailingBlank, List.reverse_eq_nil_iff, skipBlank_eq_nil_iff, List.all_reverse,
    all_isBlank_skipBlank]

end FacetedSearch.Text
