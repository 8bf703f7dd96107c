import FacetedSearch.Query.Basic
import FacetedSearch.Text.Blank
import FacetedSearch.Text.Lowercase

/-!
# Free text

What a text typed into a search box asks for. The text is trimmed and
lower-cased first. Sellers may put a phrase in double quotes, which asks for
all of its words in one field; any other text may resemble one of several fields,
and one that looks like an address or a licence serial may also be exactly that.
Buyers' texts are always matched inexactly.
-/

namespace FacetedSearch

/-- The fields of a search box for sellers. -/
structure SellerBox where
  option : String
  phraseField : String
  fuzzyFields : List String
  emailFields : List String
  serialField : String
  deriving DecidableEq, Repr

/-- The fields of a search box for buyers. -/
structure BuyerBox where
  option : String
  fuzzyFields : List String
  deriving DecidableEq, Repr

namespace FreeText

/-- The text in lower case without blanks at its ends. -/
def canonical (text : String) : List Char := Text.lower (Text.trim text.toList)

/-- The inner part of a text in double quotes that has no other double quote, trimmed. -/
def phrase? (text : List Char) : Option (List Char) :=
  match text with
  | '"' :: rest =>
    if rest.getLast? = some '"' ∧ '"' ∉ rest.dropLast then some (Text.trim rest.dropLast) else none
  | _ => none

/-- Whether a character is a hexadecimal digit in lower case. -/
def isLowerHex (c : Char) : Bool := c.isDigit || ('a' ≤ c && c ≤ 'f')

/-- A licence serial: four groups of eight hexadecimal digits with hyphens between. -/
def serialPattern : List (Char → Bool) :=
  let group := List.replicate 8 isLowerHex
  let hyphen : Char → Bool := (· == '-')
  group ++ hyphen :: group ++ hyphen :: group ++ hyphen :: group

/-- Whether a text has one character for each place of a pattern. -/
def fits : List (Char → Bool) → List Char → Bool
  | [], [] => true
  | allows :: pattern, c :: text => allows c && fits pattern text
  | _, _ => false

/-- What a canonical text without a quoted phrase may be, for sellers. -/
def sellerAlternatives (box : SellerBox) (fuzziness : String) (text : List Char) : List Clause :=
  let query := String.ofList text
  let emails :=
    if '@' ∈ text then box.emailFields.map fun field => .term field (.string query) else []
  let serials :=
    if fits serialPattern text then
      [.term box.serialField (.string (String.ofList (text.map Char.toUpper)))]
    else []
  .fuzzy box.fuzzyFields query fuzziness :: emails ++ serials

/-- What a text asks for in a search box for sellers. -/
def sellerQuery (box : SellerBox) (fuzziness : String) (text : String) : BooleanQuery :=
  match canonical text with
  | [] => .empty
  | c :: rest =>
    match phrase? (c :: rest) with
    | some [] => .empty
    | some phrase => .single .must (.words box.phraseField (String.ofList phrase) .all)
    | none => .ofAlternatives .must (sellerAlternatives box fuzziness (c :: rest))

/-- What a text asks for in a search box for buyers. -/
def buyerQuery (box : BuyerBox) (fuzziness : String) (text : String) : BooleanQuery :=
  match canonical text with
  | [] => .empty
  | c :: rest =>
    .ofAlternatives .must [.fuzzy box.fuzzyFields (String.ofList (c :: rest)) fuzziness]

end FreeText

end FacetedSearch
