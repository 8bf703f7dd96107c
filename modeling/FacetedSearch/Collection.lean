/-!
# Collections

The collections of records that can be searched, and their names.
-/

namespace FacetedSearch

/-- A collection of records. -/
inductive Collection where
  /-- Purchases, searched by sellers. -/
  | transactions
  /-- What sellers write to buyers. -/
  | messages
  deriving DecidableEq, Repr

namespace Collection

/-- Every collection. -/
def all : List Collection := [.transactions, .messages]

/-- The name of a collection. -/
def name : Collection → String
  | .transactions => "transactions"
  | .messages => "messages"

/-- The collection with a name. -/
def ofName? (name : String) : Option Collection := all.find? (·.name = name)

/-- What is said about a name that no collection has. -/
def unknownMessage (name : String) : String := "Unknown collection: " ++ name

/-- A collection is found under its name. -/
@[simp] theorem ofName?_name (collection : Collection) :
    ofName? collection.name = some collection := by
  cases collection <;> rfl

end Collection

end FacetedSearch
