import FacetedSearch.Configuration.Basic
import FacetedSearch.Json.Outline

/-!
# Configuration text

A configuration is written as a JSON object with a member for each of its
fields, or as an array of the fields in order. What is left out takes its default; other
members are ignored, but a field may not be written twice.
-/

namespace FacetedSearch.Configuration

open Json (Token Piece Member decode?)

/-- The name of the member for the prefix of index names. -/
def indexPrefixName : String := "index_prefix"

/-- The name of the member for the fuzziness. -/
def fuzzinessName : String := "fuzziness"

/-- The value of a field: its default without a member, the text of its only member otherwise. -/
def fieldText? (members : List (String × Option (List Piece))) (name default : String) :
    Option String :=
  match members.filter (·.1 = name) with
  | [] => some default
  | [(_, some pieces)] => decode? pieces
  | _ => none

/-- A member with its name decoded. -/
def namedMember? (member : Member) : Option (String × Option (List Piece)) :=
  (decode? member.name).map fun name => (name, member.value)

/-- The configuration of the members of an object. -/
def ofMembers? (members : List Member) : Option Configuration := do
  let named ← members.mapM namedMember?
  let defaults : Configuration := {}
  let indexPrefix ← fieldText? named indexPrefixName defaults.indexPrefix
  let fuzziness ← fieldText? named fuzzinessName defaults.fuzziness
  return { indexPrefix, fuzziness }

/-- The configuration that the tokens of a JSON text denote. -/
def ofTokens? : List Token → Option Configuration
  | [.opening .square, .closing .square] => some {}
  | [.opening .square, .string first, .closing .square] => do
    let indexPrefix ← decode? first
    return { indexPrefix }
  | [.opening .square, .string first, .comma, .string second, .closing .square] => do
    let indexPrefix ← decode? first
    let fuzziness ← decode? second
    return { indexPrefix, fuzziness }
  | tokens => (Json.objectMembers? tokens).bind ofMembers?

/-- The configuration of a text, before it is checked. -/
def read? (text : String) : Option Configuration := (Json.tokens? text.toList).bind ofTokens?

/-- The configuration of a text, if it is readable and has no fault. -/
def ofText (text : String) : Except SearchError Configuration :=
  match read? text with
  | none => .error (.configuration .unreadable)
  | some configuration => configuration.validate

end FacetedSearch.Configuration
