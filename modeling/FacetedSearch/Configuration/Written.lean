import FacetedSearch.Configuration.Basic
import FacetedSearch.Json.Written

/-!
# Written configurations

What a text has to hold to write a configuration, and what is asked of a configuration, apart
from the functions that read and check one.
-/

namespace FacetedSearch.Configuration

/-- What the members of an object give for a field. -/
inductive Gives (name default : String) : List (String × Option String) → String → Prop where
  /-- Exactly one member has the name of the field, and it is a string. -/
  | written {before after : List (String × Option String)} (value : String)
      (hbefore : ∀ named ∈ before, named.1 ≠ name) (hafter : ∀ named ∈ after, named.1 ≠ name) :
      Gives name default (before ++ (name, some value) :: after) value
  /-- No member has it. -/
  | omitted {list : List (String × Option String)} (h : ∀ named ∈ list, named.1 ≠ name) :
      Gives name default list default

/-- The text is one of an object that gives the fields of the configuration. -/
inductive IsWrittenAs (configuration : Configuration) (text : String) : Prop where
  | object {list : List (String × Option String)} (h : Json.IsObjectText list text.toList)
      (hindex : Gives "index_prefix" "commerce" list configuration.indexPrefix)
      (hfuzziness : Gives "fuzziness" "AUTO" list configuration.fuzziness)

/-- The characters that may stand in the name of an index. -/
def InIndexName (c : Char) : Prop := 'a' ≤ c ∧ c ≤ 'z' ∨ '0' ≤ c ∧ c ≤ '9' ∨ c = '_' ∨ c = '-'

/-- All that is asked of a configuration. -/
structure IsUsable (configuration : Configuration) : Prop where
  indexPrefix_ne_empty : configuration.indexPrefix ≠ ""
  inIndexName_of_mem : ∀ c ∈ configuration.indexPrefix.toList, InIndexName c
  exists_not_blank : ∃ c ∈ configuration.fuzziness.toList, Text.isBlank c = false

/-- The fault that is to be reported: each one stands behind those before it. -/
inductive FirstFault (configuration : Configuration) : ConfigurationFault → Prop where
  | emptyIndexPrefix (h : configuration.indexPrefix = "") :
      FirstFault configuration .emptyIndexPrefix
  | invalidCharacter {before after : List Char} {c : Char}
      (h : configuration.indexPrefix.toList = before ++ c :: after)
      (hbefore : ∀ d ∈ before, InIndexName d) (hc : ¬ InIndexName c) :
      FirstFault configuration (.invalidCharacter configuration.indexPrefix c)
  | blankFuzziness (hne : configuration.indexPrefix ≠ "")
      (hmem : ∀ c ∈ configuration.indexPrefix.toList, InIndexName c)
      (h : ∀ c ∈ configuration.fuzziness.toList, Text.isBlank c = true) :
      FirstFault configuration .blankFuzziness

end FacetedSearch.Configuration
