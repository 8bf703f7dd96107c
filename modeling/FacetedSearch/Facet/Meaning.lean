import FacetedSearch.Facet.Basic
import FacetedSearch.Query.Meaning

/-!
# The meaning of facets

Which records a facet lets through, said of the settings of its options and without the
queries that it contributes.
-/

namespace FacetedSearch

universe u

variable {Record : Type u}

/-- A condition holds of a record. -/
def Condition.Holds (model : RecordModel Record) (record : Record) : Condition → Prop
  | .present field => model.values record field ≠ []
  | .isTruth field value => Json.bool value ∈ model.values record field
  | .isText field value => Json.string value ∈ model.values record field

/-- The field of an option has one of the identifiers supplied for it. -/
def IdentifierOption.Meets (source : IdentifierOption) (model : RecordModel Record)
    (settings : Settings) (record : Record) : Prop :=
  ∃ id ∈ (settings.ids source.option).members, id.toJson ∈ model.values record source.field

/--
What a list of a query demands of a statement; alternatives without a least number demand
nothing.
-/
def Occurrence.Demands (occurrence : Occurrence) (statement : Prop) : Prop :=
  match occurrence with
  | .filter => statement
  | .must => statement
  | .mustNot => ¬ statement
  | .should => True

namespace FreeText

/-- A record fits a text from a seller's search box. -/
def SellerFits (box : SellerBox) (fuzziness : String) (model : RecordModel Record)
    (record : Record) (text : String) : Prop :=
  let prepared := canonical text
  match phrase? prepared with
  | some phrase => phrase = [] ∨ model.HasWords record box.phraseField (String.ofList phrase) .all
  | none =>
    prepared = [] ∨
      model.Resembles record box.fuzzyFields (String.ofList prepared) fuzziness ∨
      ('@' ∈ prepared ∧ ∃ field ∈ box.emailFields,
        Json.string (String.ofList prepared) ∈ model.values record field) ∨
      (fits serialPattern prepared = true ∧
        Json.string (String.ofList (prepared.map Char.toUpper)) ∈
          model.values record box.serialField)

/-- A record fits a text from a buyer's search box. -/
def BuyerFits (box : BuyerBox) (fuzziness : String) (model : RecordModel Record)
    (record : Record) (text : String) : Prop :=
  canonical text = [] ∨
    model.Resembles record box.fuzzyFields (String.ofList (canonical text)) fuzziness

end FreeText

/-- A record lies within those bounds that are set. -/
def Facet.WithinBounds (model : RecordModel Record) (record : Record) (field : String)
    (value? : String → Option Json) (bounds : List (String × Bound)) : Prop :=
  ∀ bound ∈ bounds, ∀ value, value? bound.1 = some value →
    model.Within record field bound.2 value

/-- A facet lets a record through. -/
def Facet.Admits (facet : Facet) (model : RecordModel Record) (settings : Settings)
    (configuration : Configuration) (record : Record) : Prop :=
  match facet with
  | .identity source _ =>
    (settings.ids source.option).isEmpty ∨ source.Meets model settings record
  | .anyOf sources =>
    (∀ source ∈ sources, (settings.ids source.option).isEmpty) ∨
      ∃ source ∈ sources, source.Meets model settings record
  | .exclusion source => ¬ source.Meets model settings record
  | .flag option condition whenTrue =>
    match settings.flag option with
    | some true => whenTrue.Demands (condition.Holds model record)
    | some false => ¬ condition.Holds model record
    | none => True
  | .switch option condition occurrence =>
    settings.switch option = true → occurrence.Demands (condition.Holds model record)
  | .numericRange field greaterThan lessThan =>
    WithinBounds model record field (fun option => (settings.number option).map .number)
      (numericBounds greaterThan lessThan)
  | .dateRange field after onOrAfter before onOrBefore =>
    WithinBounds model record field (fun option => (settings.moment option).map .string)
      (dateBounds after onOrAfter before onOrBefore)
  | .sellerText box =>
    ∀ text, settings.text box.option = some text →
      FreeText.SellerFits box configuration.fuzziness model record text
  | .buyerText box =>
    ∀ text, settings.text box.option = some text →
      FreeText.BuyerFits box configuration.fuzziness model record text

end FacetedSearch
