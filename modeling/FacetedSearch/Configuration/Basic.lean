import FacetedSearch.SearchError

/-!
# Configurations

What depends on the deployment: the prefix of the index names and the
fuzziness of inexact text matches. Checking a configuration looks at the prefix first.
-/

namespace FacetedSearch

/-- The settings of a deployment. -/
structure Configuration where
  /-- Stands before the name of a collection in the name of its index. -/
  indexPrefix : String := "commerce"
  /-- How far a text may be from a query that it matches inexactly. -/
  fuzziness : String := "AUTO"
  deriving DecidableEq, Repr

namespace Configuration

/-- Whether a character may stand in the prefix of index names. -/
def allowsCharacter (c : Char) : Bool := c.isLower || c.isDigit || c == '_' || c == '-'

/--
The first fault of a configuration: an empty prefix, a wrong character in it, or a blank
fuzziness.
-/
def fault? (configuration : Configuration) : Option ConfigurationFault :=
  if configuration.indexPrefix = "" then some .emptyIndexPrefix
  else
    match configuration.indexPrefix.toList.find? fun c => !allowsCharacter c with
    | some c => some (.invalidCharacter configuration.indexPrefix c)
    | none => if Text.allBlank configuration.fuzziness then some .blankFuzziness else none

/-- The configuration itself if it has no fault. -/
def validate (configuration : Configuration) : Except SearchError Configuration :=
  match configuration.fault? with
  | some fault => .error (.configuration fault)
  | none => .ok configuration

/-- The name of the index of a collection. -/
def indexName (configuration : Configuration) (collection : Collection) : String :=
  configuration.indexPrefix ++ "_" ++ collection.name

end Configuration

end FacetedSearch
