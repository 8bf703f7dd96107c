import FacetedSearch.Query.Rendering
import FacetedSearch.Schema

/-!
# Controls

What a caller may say about the execution of a search and the form of its
answer: paging, order, the fields shown, aggregations and the exact total. These
options are the same for every collection, are copied as they are, and are left out of
a request if they were not supplied.
-/

namespace FacetedSearch

/-- The execution of a search, as far as the caller determines it. -/
structure Controls where
  /-- How many results are passed over. -/
  offset : Option UInt64 := none
  /-- How many results are shown. -/
  limit : Option UInt64 := none
  /-- The order of the results. -/
  sort : Option Json := none
  /-- The fields that are shown. -/
  fields : Option Json := none
  aggregations : Option Json := none
  /-- Whether the total is counted exactly. -/
  trackTotalHits : Option Bool := none

namespace Controls

/-- The options for the controls. -/
def declarations : List Declaration :=
  [ ⟨"offset", .count⟩
  , ⟨"limit", .count⟩
  , ⟨"sort", .document⟩
  , ⟨"fields", .document⟩
  , ⟨"aggregations", .document⟩
  , ⟨"track_total_hits", .flag⟩ ]

/-- The controls of the settings of a collection. -/
def ofSettings (settings : Settings) : Controls where
  offset := settings.count "offset"
  limit := settings.count "limit"
  sort := settings.document "sort"
  fields := settings.document "fields"
  aggregations := settings.document "aggregations"
  trackTotalHits := settings.flag "track_total_hits"

/-- Whether the caller determines nothing. -/
def isEmpty (controls : Controls) : Bool :=
  controls.offset.isNone && controls.limit.isNone && controls.sort.isNone &&
    controls.fields.isNone && controls.aggregations.isNone && controls.trackTotalHits.isNone

/-- Write what the caller determines into the members of a body. -/
def writeInto (controls : Controls) (members : NameMap Json) : NameMap Json :=
  members
    |>.insertSome "from" (controls.offset.map .ofUInt64)
    |>.insertSome "size" (controls.limit.map .ofUInt64)
    |>.insertSome "sort" controls.sort
    |>.insertSome "_source" controls.fields
    |>.insertSome "aggs" controls.aggregations
    |>.insertSome "track_total_hits" (controls.trackTotalHits.map .bool)

end Controls

end FacetedSearch
