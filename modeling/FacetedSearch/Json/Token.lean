/-!
# Tokens of JSON text

JSON text is split into tokens: brackets, commas, colons, strings and plain words,
which are the numbers, the truth values and null. Blanks between tokens are space, tab,
line feed and carriage return. A string token keeps its escapes as they stand; `decode?`
gives the text it denotes, which it does not have if half of a surrogate pair is missing.
-/

namespace FacetedSearch.Json

/-- The two kinds of brackets. -/
inductive Bracket where
  /-- Around the items of an array. -/
  | square
  /-- Around the members of an object. -/
  | curly
  deriving DecidableEq, Repr

/-- A piece of the text of a string token. -/
inductive Piece where
  /-- A character that stands for itself or is named by an escape of one letter. -/
  | char (c : Char)
  /-- A 16-bit unit, written as four hexadecimal digits. -/
  | unit (code : Nat)
  deriving DecidableEq, Repr

/-- A token of JSON text. -/
inductive Token where
  | opening (bracket : Bracket)
  | closing (bracket : Bracket)
  | comma
  | colon
  | string (pieces : List Piece)
  /-- A number, a truth value or null. -/
  | plain
  deriving DecidableEq, Repr

/-- The blanks between tokens. -/
def isSpace (c : Char) : Bool := c == ' ' || c == '\t' || c == '\n' || c == '\r'

/-- The value of a hexadecimal digit, small or capital. -/
def hexValue? (c : Char) : Option Nat :=
  if c.isDigit then some (c.toNat - '0'.toNat)
  else if 'a' ≤ c && c ≤ 'f' then some (c.toNat - 'a'.toNat + 10)
  else if 'A' ≤ c && c ≤ 'F' then some (c.toNat - 'A'.toNat + 10)
  else none

/-- The value of four hexadecimal digits. -/
def unitOfDigits? (a b c d : Char) : Option Nat := do
  let a ← hexValue? a
  let b ← hexValue? b
  let c ← hexValue? c
  let d ← hexValue? d
  return 4096 * a + 256 * b + 16 * c + d

/-- The character that a letter after a backslash names. -/
def escapedChar? : Char → Option Char
  | '"' => some '"'
  | '\\' => some '\\'
  | '/' => some '/'
  | 'b' => some '\x08'
  | 'f' => some '\x0C'
  | 'n' => some '\n'
  | 'r' => some '\r'
  | 't' => some '\t'
  | _ => none

/--
The pieces of a string up to its closing quote, and what follows it; control characters must be
escaped.
-/
def scanString : List Char → Option (List Piece × List Char)
  | [] => none
  | '"' :: rest => some ([], rest)
  | '\\' :: 'u' :: a :: b :: c :: d :: rest => do
    let code ← unitOfDigits? a b c d
    let (pieces, rest) ← scanString rest
    return (.unit code :: pieces, rest)
  | '\\' :: letter :: rest => do
    let c ← escapedChar? letter
    let (pieces, rest) ← scanString rest
    return (.char c :: pieces, rest)
  | c :: rest =>
    if c = '\\' ∨ c.toNat < 0x20 then none
    else do
      let (pieces, rest) ← scanString rest
      return (.char c :: pieces, rest)

/-- Whether a unit is the first half of a surrogate pair. -/
def isHighSurrogate (code : Nat) : Bool := 0xD800 ≤ code && code < 0xDC00

/-- Whether a unit is the second half of a surrogate pair. -/
def isLowSurrogate (code : Nat) : Bool := 0xDC00 ≤ code && code < 0xE000

/--
The characters that pieces denote; a pair of surrogates is one character, half of a pair is
none.
-/
def decodePieces? : List Piece → Option (List Char)
  | [] => some []
  | .char c :: rest => (decodePieces? rest).map (c :: ·)
  | .unit high :: .unit low :: rest =>
    if isHighSurrogate high then
      if isLowSurrogate low then
        let c := Char.ofNat (0x10000 + 0x400 * (high - 0xD800) + (low - 0xDC00))
        (decodePieces? rest).map (c :: ·)
      else none
    else if isLowSurrogate high then none
    else (decodePieces? (.unit low :: rest)).map (Char.ofNat high :: ·)
  | .unit code :: rest =>
    if isHighSurrogate code || isLowSurrogate code then none
    else (decodePieces? rest).map (Char.ofNat code :: ·)

/-- The text that a string token denotes. -/
def decode? (pieces : List Piece) : Option String := (decodePieces? pieces).map String.ofList

/-- What follows one or more digits. -/
def skipDigits? : List Char → Option (List Char)
  | c :: rest => if c.isDigit then some (rest.dropWhile Char.isDigit) else none
  | [] => none

/-- What follows the digits before the point: a single zero, or digits that start with none. -/
def skipWhole? : List Char → Option (List Char)
  | '0' :: rest => some rest
  | text => skipDigits? text

/-- What follows a fraction, which may be missing. -/
def skipFraction? : List Char → Option (List Char)
  | '.' :: rest => skipDigits? rest
  | text => some text

/-- What follows an exponent, which may be missing. -/
def skipExponent? : List Char → Option (List Char)
  | 'e' :: '+' :: rest | 'e' :: '-' :: rest | 'E' :: '+' :: rest | 'E' :: '-' :: rest =>
    skipDigits? rest
  | 'e' :: rest | 'E' :: rest => skipDigits? rest
  | text => some text

/-- What follows a minus sign, which may be missing. -/
def skipSign : List Char → List Char
  | '-' :: rest => rest
  | text => text

/-- What follows a number. -/
def skipNumber? (text : List Char) : Option (List Char) :=
  ((skipWhole? (skipSign text)).bind skipFraction?).bind skipExponent?

/-- The token at the start of a text, and what follows it. -/
def scanToken : List Char → Option (Token × List Char)
  | '[' :: rest => some (.opening .square, rest)
  | ']' :: rest => some (.closing .square, rest)
  | '\x7b' :: rest => some (.opening .curly, rest)
  | '\x7d' :: rest => some (.closing .curly, rest)
  | ',' :: rest => some (.comma, rest)
  | ':' :: rest => some (.colon, rest)
  | '"' :: rest => (scanString rest).map fun (pieces, rest) => (.string pieces, rest)
  | 't' :: 'r' :: 'u' :: 'e' :: rest => some (.plain, rest)
  | 'f' :: 'a' :: 'l' :: 's' :: 'e' :: rest => some (.plain, rest)
  | 'n' :: 'u' :: 'l' :: 'l' :: rest => some (.plain, rest)
  | text => (skipNumber? text).map fun rest => (.plain, rest)

/-! ### Every token takes a character -/

theorem length_lt_of_scanString {text rest : List Char} {pieces : List Piece}
    (h : scanString text = some (pieces, rest)) : rest.length < text.length := by
  fun_induction scanString text generalizing pieces rest with
  | case1 => simp at h
  | case2 => simp_all
  | case3 a b c d text ih =>
    simp only [Option.bind_eq_bind, Option.bind_eq_some_iff, Option.pure_def, Option.some.injEq,
      Prod.mk.injEq, Prod.exists] at h
    obtain ⟨_, _, _, _, hrest, _, rfl⟩ := h
    have := ih hrest
    simp only [List.length_cons]
    omega
  | case4 letter text _ ih =>
    simp only [Option.bind_eq_bind, Option.bind_eq_some_iff, Option.pure_def, Option.some.injEq,
      Prod.mk.injEq, Prod.exists] at h
    obtain ⟨_, _, _, _, hrest, _, rfl⟩ := h
    have := ih hrest
    simp only [List.length_cons]
    omega
  | case5 => simp at h
  | case6 c text _ _ _ _ ih =>
    simp only [Option.bind_eq_bind, Option.bind_eq_some_iff, Option.pure_def, Option.some.injEq,
      Prod.mk.injEq, Prod.exists] at h
    obtain ⟨_, _, hrest, _, rfl⟩ := h
    have := ih hrest
    simp only [List.length_cons]
    omega

theorem length_lt_of_skipDigits? {text rest : List Char} (h : skipDigits? text = some rest) :
    rest.length < text.length := by
  cases text with
  | nil => simp [skipDigits?] at h
  | cons c text =>
    simp only [skipDigits?, Option.ite_none_right_eq_some, Option.some.injEq] at h
    have := (List.dropWhile_sublist Char.isDigit (l := text)).length_le
    rw [← h.2, List.length_cons]
    omega

theorem length_lt_of_skipWhole? {text rest : List Char} (h : skipWhole? text = some rest) :
    rest.length < text.length := by
  unfold skipWhole? at h
  split at h
  · simp_all
  · exact length_lt_of_skipDigits? h

theorem length_le_of_skipFraction? {text rest : List Char} (h : skipFraction? text = some rest) :
    rest.length ≤ text.length := by
  unfold skipFraction? at h
  split at h
  · have := length_lt_of_skipDigits? h
    simp only [List.length_cons]
    omega
  · simp_all

theorem length_le_of_skipExponent? {text rest : List Char} (h : skipExponent? text = some rest) :
    rest.length ≤ text.length := by
  unfold skipExponent? at h
  split at h
  case h_7 => simp_all
  all_goals
    have := length_lt_of_skipDigits? h
    simp only [List.length_cons]
    omega

theorem length_skipSign_le (text : List Char) : (skipSign text).length ≤ text.length := by
  unfold skipSign
  split
  · simp
  · exact Nat.le_refl _

theorem length_lt_of_skipNumber? {text rest : List Char} (h : skipNumber? text = some rest) :
    rest.length < text.length := by
  simp only [skipNumber?, Option.bind_eq_some_iff] at h
  obtain ⟨afterFraction, ⟨afterWhole, hwhole, hfraction⟩, hexponent⟩ := h
  have hsign := length_skipSign_le text
  have hlt := length_lt_of_skipWhole? hwhole
  have hle := length_le_of_skipFraction? hfraction
  have hle' := length_le_of_skipExponent? hexponent
  omega

theorem length_lt_of_scanToken {text rest : List Char} {token : Token}
    (h : scanToken text = some (token, rest)) : rest.length < text.length := by
  unfold scanToken at h
  split at h
  case h_7 =>
    simp only [Option.map_eq_some_iff, Prod.mk.injEq, Prod.exists] at h
    obtain ⟨_, _, hrest, _, rfl⟩ := h
    have := length_lt_of_scanString hrest
    simp only [List.length_cons]
    omega
  case h_11 =>
    simp only [Option.map_eq_some_iff, Prod.mk.injEq] at h
    obtain ⟨_, hrest, _, rfl⟩ := h
    exact length_lt_of_skipNumber? hrest
  all_goals
    simp only [Option.some.injEq, Prod.mk.injEq] at h
    simp only [← h.2, List.length_cons]
    omega

/-- The tokens of a text, if it can be split into tokens. -/
def tokens? (text : List Char) : Option (List Token) :=
  match _htext : text.dropWhile isSpace with
  | [] => some []
  | c :: rest =>
    match _htoken : scanToken (c :: rest) with
    | none => none
    | some (token, rest) => (tokens? rest).map (token :: ·)
termination_by text.length
decreasing_by
  have hdrop := (List.dropWhile_sublist isSpace (l := text)).length_le
  have hlt := length_lt_of_scanToken _htoken
  rw [_htext] at hdrop
  omega

end FacetedSearch.Json
