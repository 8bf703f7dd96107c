import FacetedSearch.Text.LetterCase

/-!
# Lower case

The lower-case form of a text. It is taken character by character, with one
rule that looks around: a capital sigma becomes a final sigma at the end of a
word. A sigma ends a word if a cased letter stands before it and none after it,
when the case-ignorable characters next to it are skipped.
-/

namespace FacetedSearch.Text

/-- The lower-case form of a single character, without regard to its neighbours. -/
def lowerChar (c : Char) : List Char :=
  if c = 'İ' then ['i', '\u0307']
  else
    match caseRuns.find? (·.covers c.toNat) with
    | some run => [Char.ofNat (run.lower c.toNat)]
    | none => [c]

/-- Whether the first character that is not case-ignorable is a cased letter. -/
def startsCased (text : List Char) : Bool :=
  (text.dropWhile isCaseIgnorable).head?.any isCased

/--
Whether a sigma between two texts ends a word; the text before it is given
from its last character backwards.
-/
def endsWord (before after : List Char) : Bool := startsCased before && !startsCased after

/-- The lower-case form of what follows a text, which is given from its last character backwards. -/
def lowerAfter (before : List Char) : List Char → List Char
  | [] => []
  | c :: rest =>
    (if c = 'Σ' then [if endsWord before rest then 'ς' else 'σ'] else lowerChar c) ++
      lowerAfter (c :: before) rest

/-- The lower-case form of a text. -/
def lower (text : List Char) : List Char := lowerAfter [] text

end FacetedSearch.Text
