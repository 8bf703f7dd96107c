import FacetedSearch.Controls

/-!
# Requests

A search request: the index to ask, the boolean query that selects the records and the
controls. Its body is the JSON sent to the search backend. The body for counting is made
from the body: what it says about paging, order and fields is taken out, and no results are
asked for but the exact total.
-/

namespace FacetedSearch

/-- A search request. -/
structure Request where
  collection : Collection
  index : String
  query : BooleanQuery
  controls : Controls

namespace Request

/-- The members of the body: the query, and the controls that the caller determines. -/
def members (request : Request) : NameMap Json :=
  request.controls.writeInto (NameMap.empty.insert "query" (.field "bool" request.query.toJson))

/-- The body of the request. -/
def body (request : Request) : Json := .object request.members.entries

/--
The body that only counts the matches: paging, order and fields are taken out of the body, and no
results and the exact total are asked for, whatever it asked for before.
-/
def countingBody (request : Request) : Json :=
  request.body
    |>.removeMember "from"
    |>.removeMember "sort"
    |>.removeMember "_source"
    |>.setMember "size" (.ofUInt64 0)
    |>.setMember "track_total_hits" (.bool true)

end Request

end FacetedSearch
