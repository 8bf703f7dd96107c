import FacetedSearch.Collection
import FacetedSearch.Shape

/-!
# Errors

Why options cannot be compiled or a configuration cannot be used. Nothing is
compiled in part: the first fault ends the work.
-/

namespace FacetedSearch

/-- What is wrong with a configuration. -/
inductive ConfigurationFault where
  /-- The text is not the JSON text of a configuration. -/
  | unreadable
  /-- The prefix of the index names is empty. -/
  | emptyIndexPrefix
  /-- A character of the prefix is not allowed in index names. -/
  | invalidCharacter (indexPrefix : String) (c : Char)
  /-- The fuzziness is blank. -/
  | blankFuzziness
  deriving DecidableEq, Repr

/-- The fault in words. -/
def ConfigurationFault.message : ConfigurationFault → String
  | .unreadable => "Failed to parse compiler config: "
  | .emptyIndexPrefix => "index_prefix must not be empty"
  | .invalidCharacter indexPrefix c =>
    "index_prefix '" ++ indexPrefix ++ "' contains invalid character '" ++ c.toString ++ "'"
  | .blankFuzziness => "fuzziness must not be empty"

/-- Why there is no request. -/
inductive SearchError where
  /-- The collection has no option of the name. -/
  | unknownOption (collection : Collection) (option : String)
  /-- The value of an option was refused. -/
  | refused (option : String) (refusal : Refusal)
  | configuration (fault : ConfigurationFault)
  deriving DecidableEq, Repr

namespace SearchError

/-- The error in words. -/
def message : SearchError → String
  | .unknownOption collection option =>
    "unknown search option '" ++ option ++ "' for " ++ collection.name
  | .refused option (.mismatch expected found) =>
    "invalid value for search option '" ++ option ++ "': expected " ++ expected.label ++
      ", found " ++ found.label
  | .refused option (.unreadableDate text) =>
    "invalid date for search option '" ++ option ++ "': '" ++ text ++ "'"
  | .configuration fault => "invalid compiler configuration: " ++ fault.message

/-- The option that the error is about. -/
def option? : SearchError → Option String
  | .unknownOption _ option => some option
  | .refused option _ => some option
  | .configuration _ => none

end SearchError

end FacetedSearch
