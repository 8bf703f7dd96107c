/-!
# Written JSON

The grammar of JSON text, apart from the functions that read it. Of a value only
the string is kept that it may be, and of an object its members in order, so a text of any
depth is described by its outermost members. Every string in it has a content: half of
a surrogate pair is never alone.
-/

namespace FacetedSearch.Json

/-- The blanks that may stand between the tokens of a text. -/
def AreSpaces (text : List Char) : Prop := ∀ c ∈ text, c = ' ' ∨ c = '\t' ∨ c = '\n' ∨ c = '\r'

/-! ### Strings -/

/-- The letters after a backslash, with the character that each stands for. -/
def escapes : List (Char × Char) :=
  [('"', '"'), ('\\', '\\'), ('/', '/'), ('b', '\x08'), ('f', '\x0C'), ('n', '\n'), ('r', '\r'),
    ('t', '\t')]

/-- A hexadecimal digit and its value. -/
def IsHexDigit (digit : Char) (value : Nat) : Prop :=
  "0123456789abcdef".toList[value]? = some digit ∨ "0123456789ABCDEF".toList[value]? = some digit

/-- The four hexadecimal digits of a number of 16 bits. -/
inductive IsCodeUnit : List Char → Nat → Prop where
  | digits {a b c d : Char} {u v w x : Nat} (ha : IsHexDigit a u) (hb : IsHexDigit b v)
      (hc : IsHexDigit c w) (hd : IsHexDigit d x) :
      IsCodeUnit [a, b, c, d] (4096 * u + 256 * v + 16 * w + x)

/-- The ways to write one character of a string. -/
inductive SpellsChar : List Char → Char → Prop where
  | itself {c : Char} (hcontrol : 0x20 ≤ c.toNat) (hquote : c ≠ '"') (hbackslash : c ≠ '\\') :
      SpellsChar [c] c
  | escape {letter c : Char} (h : (letter, c) ∈ escapes) : SpellsChar ['\\', letter] c
  | unit {digits : List Char} {c : Char} (h : IsCodeUnit digits c.toNat) :
      SpellsChar ('\\' :: 'u' :: digits) c
  /-- A character beyond 16 bits as a surrogate pair; each half carries ten bits of it. -/
  | pair {first second : List Char} {a b : Nat} {c : Char} (hfirst : IsCodeUnit first (0xD800 + a))
      (hsecond : IsCodeUnit second (0xDC00 + b)) (ha : a < 0x400) (hb : b < 0x400)
      (hc : c.toNat = 0x10000 + 0x400 * a + b) :
      SpellsChar ('\\' :: 'u' :: (first ++ '\\' :: 'u' :: second)) c

/-- The ways to write the characters of a string, one after the other. -/
inductive SpellsText : List Char → List Char → Prop where
  | nil : SpellsText [] []
  | cons {text rest : List Char} {c : Char} {content : List Char} (hc : SpellsChar text c)
      (hrest : SpellsText rest content) : SpellsText (text ++ rest) (c :: content)

/-- The texts of a string, in its quotes. -/
inductive IsStringText (content : String) : List Char → Prop where
  | quoted {inner : List Char} (h : SpellsText inner content.toList) :
      IsStringText content ('"' :: (inner ++ ['"']))

/-! ### Numbers -/

/-- One or more decimal digits. -/
def AreDigits (text : List Char) : Prop := text ≠ [] ∧ ∀ c ∈ text, c.isDigit = true

/-- The digits before the point: a single zero, or digits that do not start with zero. -/
inductive IsWhole : List Char → Prop where
  | zero : IsWhole ['0']
  | digits {text : List Char} (h : AreDigits text) (hzero : text.head? ≠ some '0') : IsWhole text

/-- A point and the digits after it, or nothing. -/
inductive IsFraction : List Char → Prop where
  | missing : IsFraction []
  | digits {digits : List Char} (h : AreDigits digits) : IsFraction ('.' :: digits)

/-- An exponent with its letter and perhaps a sign, or nothing. -/
inductive IsExponent : List Char → Prop where
  | missing : IsExponent []
  | digits {letter : Char} {sign digits : List Char} (hletter : letter = 'e' ∨ letter = 'E')
      (hsign : sign = [] ∨ sign = ['+'] ∨ sign = ['-']) (h : AreDigits digits) :
      IsExponent (letter :: (sign ++ digits))

/-- The texts of a number of any size. -/
inductive IsNumber : List Char → Prop where
  | parts {sign whole fraction exponent : List Char} (hsign : sign = [] ∨ sign = ['-'])
      (hwhole : IsWhole whole) (hfraction : IsFraction fraction) (hexponent : IsExponent exponent) :
      IsNumber (sign ++ (whole ++ (fraction ++ exponent)))

/-! ### Values -/

/-- What a stretch of text may be; a value comes with the string that it is, if it is one. -/
inductive Phrase where
  | value (string? : Option String)
  /-- A value with the blanks around it. -/
  | item (string? : Option String)
  /-- One or more items of an array. -/
  | items
  /-- A member of an object, with the blanks around it. -/
  | member (named : String × Option String)
  /-- One or more members of an object. -/
  | members (list : List (String × Option String))
  | object (list : List (String × Option String))

/-- The texts of a phrase. -/
inductive IsText : Phrase → List Char → Prop where
  | null : IsText (.value none) ['n', 'u', 'l', 'l']
  | true : IsText (.value none) ['t', 'r', 'u', 'e']
  | false : IsText (.value none) ['f', 'a', 'l', 's', 'e']
  | number {text : List Char} (h : IsNumber text) : IsText (.value none) text
  | string {content : String} {text : List Char} (h : IsStringText content text) :
      IsText (.value (some content)) text
  | emptyArray {spaces : List Char} (h : AreSpaces spaces) :
      IsText (.value none) ('[' :: (spaces ++ [']']))
  | array {text : List Char} (h : IsText .items text) :
      IsText (.value none) ('[' :: (text ++ [']']))
  | objectValue {list : List (String × Option String)} {text : List Char}
      (h : IsText (.object list) text) : IsText (.value none) text
  | item {string? : Option String} {before text after : List Char} (hbefore : AreSpaces before)
      (h : IsText (.value string?) text) (hafter : AreSpaces after) :
      IsText (.item string?) (before ++ text ++ after)
  | lastItem {string? : Option String} {text : List Char} (h : IsText (.item string?) text) :
      IsText .items text
  | moreItems {string? : Option String} {text rest : List Char} (h : IsText (.item string?) text)
      (hrest : IsText .items rest) : IsText .items (text ++ ',' :: rest)
  | member {name : String} {string? : Option String} {before nameText after text : List Char}
      (hbefore : AreSpaces before) (hname : IsStringText name nameText) (hafter : AreSpaces after)
      (h : IsText (.item string?) text) :
      IsText (.member (name, string?)) (before ++ nameText ++ after ++ ':' :: text)
  | lastMember {named : String × Option String} {text : List Char}
      (h : IsText (.member named) text) : IsText (.members [named]) text
  | moreMembers {named : String × Option String} {list : List (String × Option String)}
      {text rest : List Char} (h : IsText (.member named) text)
      (hrest : IsText (.members list) rest) : IsText (.members (named :: list)) (text ++ ',' :: rest)
  | emptyObject {spaces : List Char} (h : AreSpaces spaces) :
      IsText (.object []) ('\x7b' :: (spaces ++ ['\x7d']))
  | object {list : List (String × Option String)} {text : List Char}
      (h : IsText (.members list) text) : IsText (.object list) ('\x7b' :: (text ++ ['\x7d']))

/-- The texts of an object with the given members, with blanks around it. -/
inductive IsObjectText (list : List (String × Option String)) : List Char → Prop where
  | surrounded {before text after : List Char} (hbefore : AreSpaces before)
      (h : IsText (.object list) text) (hafter : AreSpaces after) :
      IsObjectText list (before ++ text ++ after)

end FacetedSearch.Json
