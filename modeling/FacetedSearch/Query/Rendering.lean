import FacetedSearch.Query.Basic

/-!
# Queries in JSON

The form in which a search backend takes a query. A clause is an object of
one member, named for its kind. A boolean query is an object in which a list
without clauses is left out, and so is the least number if there is none. The
members of every object are in increasing order of their names.
-/

namespace FacetedSearch

/-- A member, if it has a value. -/
def Json.optional (name : String) : Option Json → List (String × Json)
  | some value => [(name, value)]
  | none => []

/-- A member for a list, left out if the list is empty. -/
def Json.nonEmpty (name : String) : List Json → List (String × Json)
  | [] => []
  | items => [(name, .array items)]

mutual

/-- A clause in JSON. -/
def Clause.toJson : Clause → Json
  | .term field value => .field "term" (.field field value)
  | .terms field values => .field "terms" (.field field (.array values))
  | .present field => .field "exists" (.field "field" (.string field))
  | .range field bound value => .field "range" (.field field (.field bound.name value))
  | .words field query operator =>
    .field "match" (.field field
      (.object [("operator", .string operator.name), ("query", .string query)]))
  | .fuzzy fields query fuzziness =>
    .field "multi_match" (.object
      [ ("fields", .array (fields.map .string))
      , ("fuzziness", .string fuzziness)
      , ("query", .string query) ])
  | .group query => .field "bool" query.toJson

/-- The clauses of a list in JSON. -/
def Clause.listToJson : List Clause → List Json
  | [] => []
  | clause :: rest => clause.toJson :: Clause.listToJson rest

/-- A boolean query in JSON. -/
def BooleanQuery.toJson : BooleanQuery → Json
  | ⟨filter, mustNot, must, should, minimum⟩ =>
    .object (Json.nonEmpty Occurrence.filter.name (Clause.listToJson filter) ++
      Json.optional "minimum_should_match" (minimum.map fun n => .ofUInt64 n.toUInt64) ++
      Json.nonEmpty Occurrence.must.name (Clause.listToJson must) ++
      Json.nonEmpty Occurrence.mustNot.name (Clause.listToJson mustNot) ++
      Json.nonEmpty Occurrence.should.name (Clause.listToJson should))

end

/-- Lists of clauses are written clause by clause. -/
theorem Clause.listToJson_eq_map (clauses : List Clause) :
    Clause.listToJson clauses = clauses.map Clause.toJson := by
  induction clauses with
  | nil => rfl
  | cons clause rest ih => rw [Clause.listToJson, ih, List.map_cons]

end FacetedSearch
