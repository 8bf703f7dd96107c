import FacetedSearch.Configuration.Basic
import FacetedSearch.Facet.FreeText
import FacetedSearch.Schema

/-!
# Facets

A facet is one way to narrow a search. It declares the options it reads, and turns
their settings into a boolean query of its own: its contribution. An option that is inert
contributes nothing.
-/

namespace FacetedSearch

/-- What a flag or a switch says about a record. -/
inductive Condition where
  /-- The field has a value. -/
  | present (field : String)
  /-- The field has the truth value. -/
  | isTruth (field : String) (value : Bool)
  /-- The field has the text. -/
  | isText (field : String) (value : String)
  deriving DecidableEq, Repr

/-- The clause of a condition. -/
def Condition.clause : Condition → Clause
  | .present field => .present field
  | .isTruth field value => .term field (.bool value)
  | .isText field value => .term field (.string value)

/-- An option for identifiers and the field that holds them. -/
structure IdentifierOption where
  option : String
  field : String
  deriving DecidableEq, Repr

/-- One way to narrow a search. -/
inductive Facet where
  /-- The field has one of the identifiers. -/
  | identity (source : IdentifierOption) (shape : Shape)
  /-- One of several fields has one of its identifiers. -/
  | anyOf (sources : List IdentifierOption)
  /-- The field has none of the identifiers. -/
  | exclusion (source : IdentifierOption)
  /-- The condition holds or does not, as the flag says. -/
  | flag (option : String) (condition : Condition) (whenTrue : Occurrence)
  /-- The condition is asked for while the switch is on. -/
  | switch (option : String) (condition : Condition) (occurrence : Occurrence)
  /-- The field lies between two numbers, both excluded. -/
  | numericRange (field : String) (greaterThan lessThan : String)
  /-- The field lies between moments, each excluded or included. -/
  | dateRange (field : String) (after onOrAfter before onOrBefore : String)
  /-- The text of a seller's search box. -/
  | sellerText (box : SellerBox)
  /-- The text of a buyer's search box. -/
  | buyerText (box : BuyerBox)
  deriving DecidableEq, Repr

/-- The clause for a set of identifiers, if it has a member. -/
def IdentifierOption.clause? (source : IdentifierOption) (settings : Settings) : Option Clause :=
  let ids := settings.ids source.option
  if ids.isEmpty then none else some (.terms source.field (ids.members.map Identifier.toJson))

namespace Facet

/-- The options of the bounds of a range of numbers. -/
def numericBounds (greaterThan lessThan : String) : List (String × Bound) :=
  [(greaterThan, .above), (lessThan, .below)]

/-- The options of the bounds of a range of moments. -/
def dateBounds (after onOrAfter before onOrBefore : String) : List (String × Bound) :=
  [(after, .above), (onOrAfter, .atLeast), (before, .below), (onOrBefore, .atMost)]

/-- The options that a facet reads. -/
def declarations : Facet → List Declaration
  | .identity source shape => [⟨source.option, shape⟩]
  | .anyOf sources => sources.map fun source => ⟨source.option, .references⟩
  | .exclusion source => [⟨source.option, .references⟩]
  | .flag option _ _ => [⟨option, .flag⟩]
  | .switch option _ _ => [⟨option, .switch⟩]
  | .numericRange _ greaterThan lessThan =>
    (numericBounds greaterThan lessThan).map fun bound => ⟨bound.1, .number⟩
  | .dateRange _ after onOrAfter before onOrBefore =>
    (dateBounds after onOrAfter before onOrBefore).map fun bound => ⟨bound.1, .moment⟩
  | .sellerText box => [⟨box.option, .text⟩]
  | .buyerText box => [⟨box.option, .text⟩]

/-- The clauses of those bounds that are set, as conditions on one field. -/
def boundClauses (field : String) (value? : String → Option Json) (bounds : List (String × Bound)) :
    List Clause :=
  bounds.filterMap fun bound => (value? bound.1).map (.range field bound.2)

/-- The query of the settings of a facet's options. -/
def contribution (facet : Facet) (settings : Settings) (configuration : Configuration) :
    BooleanQuery :=
  match facet with
  | .identity source _ =>
    match source.clause? settings with
    | some clause => .single .filter clause
    | none => .empty
  | .anyOf sources => .ofAlternatives .filter (sources.filterMap (·.clause? settings))
  | .exclusion source =>
    { mustNot := (settings.ids source.option).members.map fun id => .term source.field id.toJson }
  | .flag option condition whenTrue =>
    match settings.flag option with
    | some true => .single whenTrue condition.clause
    | some false => .single .mustNot condition.clause
    | none => .empty
  | .switch option condition occurrence =>
    if settings.switch option then .single occurrence condition.clause else .empty
  | .numericRange field greaterThan lessThan =>
    { filter := boundClauses field (fun option => (settings.number option).map .number)
        (numericBounds greaterThan lessThan) }
  | .dateRange field after onOrAfter before onOrBefore =>
    { filter := boundClauses field (fun option => (settings.moment option).map .string)
        (dateBounds after onOrAfter before onOrBefore) }
  | .sellerText box =>
    match settings.text box.option with
    | some text => FreeText.sellerQuery box configuration.fuzziness text
    | none => .empty
  | .buyerText box =>
    match settings.text box.option with
    | some text => FreeText.buyerQuery box configuration.fuzziness text
    | none => .empty

end Facet

end FacetedSearch
