import FacetedSearch.Identifier
import FacetedSearch.Time.Instant

/-!
# Supplied values

The values that a caller supplies for options. They are loosely typed: an
identifier may be a number, a text, a reference or an entity, a date may be a
text. A value received as JSON becomes a supplied value, in which an object
stays an opaque document, and a supplied value can be written as JSON again.
-/

namespace FacetedSearch

/-- A reference to a record. -/
inductive Reference where
  /-- The identifier itself. -/
  | raw (id : Identifier)
  /-- A record, of which only the identifier is read. -/
  | entity (id : Identifier)
  deriving DecidableEq

/-- The identifier of the record. -/
def Reference.identifier : Reference → Identifier
  | .raw id => id
  | .entity id => id

/-- A value supplied for an option. -/
inductive Supplied where
  /-- Explicitly no value. -/
  | null
  | bool (value : Bool)
  | int (value : Int64)
  | float (value : Binary64)
  | text (value : String)
  | instant (value : Instant)
  /-- A day, which stands for its start in universal time. -/
  | date (value : Date)
  | reference (value : Reference)
  | list (items : List Supplied)
  /-- JSON that is passed on as it is. -/
  | document (value : Json)

/-- The kinds of supplied values. -/
inductive Kind where
  | null
  | boolean
  | integer
  | float
  | text
  | timestamp
  | date
  | identifier
  | entity
  | list
  | document
  deriving DecidableEq, Repr

/-- The kind in words. -/
def Kind.label : Kind → String
  | .null => "null"
  | .boolean => "boolean"
  | .integer => "integer"
  | .float => "float"
  | .text => "text"
  | .timestamp => "timestamp"
  | .date => "date"
  | .identifier => "identifier"
  | .entity => "entity"
  | .list => "list"
  | .document => "document"

namespace Supplied

instance : Inhabited Supplied := ⟨.null⟩

/-- The kind of a value. -/
def kind : Supplied → Kind
  | .null => .null
  | .bool _ => .boolean
  | .int _ => .integer
  | .float _ => .float
  | .text _ => .text
  | .instant _ => .timestamp
  | .date _ => .date
  | .reference (.raw _) => .identifier
  | .reference (.entity _) => .entity
  | .list _ => .list
  | .document _ => .document

/-- Whether the value is explicitly none. -/
def isNull : Supplied → Bool
  | .null => true
  | _ => false

/-- The identifier that a single value denotes. -/
def identifier? : Supplied → Option Identifier
  | .int value => some (.number value)
  | .text value => some (.text value)
  | .reference value => some value.identifier
  | _ => none

mutual

/--
The value in JSON: moments as their canonical text, days as their text, and lists item by item.
-/
def toJson : Supplied → Json
  | .null => .null
  | .bool value => .bool value
  | .int value => .ofInt64 value
  | .float value => .ofBinary64 value
  | .text value => .string value
  | .instant value => .string value.canonical
  | .date value => .string (String.ofList value.text)
  | .reference value => value.identifier.toJson
  | .list items => .array (itemsToJson items)
  | .document value => value

/-- The items of a list in JSON. -/
def itemsToJson : List Supplied → List Json
  | [] => []
  | item :: rest => item.toJson :: itemsToJson rest

end

mutual

/--
The supplied value of a JSON value. An integer that does not fit a signed word
becomes the nearest double.
-/
def ofJson : Json → Supplied
  | .null => .null
  | .bool value => .bool value
  | .number n =>
    match n.int64? with
    | some value => .int value
    | none => .float n.toBinary64
  | .string value => .text value
  | .array items => .list (itemsOfJson items)
  | .object members => .document (.object members)

/-- The supplied values of the items of an array. -/
def itemsOfJson : List Json → List Supplied
  | [] => []
  | item :: rest => ofJson item :: itemsOfJson rest

end

end Supplied

end FacetedSearch
