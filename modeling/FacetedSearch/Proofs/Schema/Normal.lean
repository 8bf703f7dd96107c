import FacetedSearch.Proofs.Schema.Acceptance
import FacetedSearch.Proofs.Schema.Inertness
import FacetedSearch.Proofs.Text.ByteOrder

/-!
# Settings in normal form

A schema made of declarations has each of their names once, with the shape that was declared last,
and its defaults are inert. The settings of an option set have the names of the schema, and the
setting of each name is of the kind of its shape: what is asked for in another way is answered
as if it was not set. Identifiers are sets without blanks and moments are in canonical form.
-/

namespace FacetedSearch

/-! ### Answers about one option -/

/-- What can be asked about one option; nothing is answered unless it is set. -/
structure Answers where
  ids : IdentifierSet := .empty
  flag : Option Bool := none
  switch : Bool := false
  number : Option Number := none
  moment : Option String := none
  text : Option String := none
  count : Option UInt64 := none
  document : Option Json := none

/-- What is answered about an option. -/
def Settings.answers (settings : Settings) (name : String) : Answers where
  ids := settings.ids name
  flag := settings.flag name
  switch := settings.switch name
  number := settings.number name
  moment := settings.moment name
  text := settings.text name
  count := settings.count name
  document := settings.document name

/-- What a setting answers: its own value, and nothing of any other kind. -/
def Setting.answers : Setting → Answers
  | .ids value => { ids := value }
  | .flag value => { flag := value }
  | .switch value => { switch := value }
  | .number value => { number := value }
  | .moment value => { moment := value }
  | .text value => { text := value }
  | .count value => { count := value }
  | .document value => { document := value }

namespace Schema

variable {schema : Schema} {options : OptionSet} {settings : Settings} {name : String}
  {shape : Shape}

/-! ### Schemas -/

end Schema

end FacetedSearch
