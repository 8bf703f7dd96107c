import FacetedSearch.Supplied
import FacetedSearch.Time.Layout

/-!
# Shapes and settings

An option declares a shape, the form that its values must have. Reading a supplied value
by a shape gives a setting, the value in normal form: identifiers become a set, moments their
canonical text. Each shape has an inert setting, which stands for an option that
was not supplied; an explicit null always reads as the inert setting.
-/

namespace FacetedSearch

/-- The form that the values of an option must have. -/
inductive Shape where
  /-- One identifier or entity. -/
  | reference
  /-- One or several identifiers or entities. -/
  | references
  /-- A truth value that may also be unset. -/
  | flag
  /-- A truth value that is false unless it is set. -/
  | switch
  | number
  /-- A moment or a day. -/
  | moment
  | text
  /-- A natural number. -/
  | count
  /-- Any value, passed on as JSON. -/
  | document
  deriving DecidableEq, Repr

/-- The shape in words. -/
def Shape.label : Shape → String
  | .reference => "identifier or entity"
  | .references => "list of identifiers or entities"
  | .flag => "tri-state boolean"
  | .switch => "boolean"
  | .number => "number"
  | .moment => "date/time"
  | .text => "text"
  | .count => "non-negative integer"
  | .document => "document"

/-- The value of an option in normal form. -/
inductive Setting where
  | ids (value : IdentifierSet)
  | flag (value : Option Bool)
  | switch (value : Bool)
  | number (value : Option Number)
  /-- The canonical text of a moment. -/
  | moment (value : Option String)
  | text (value : Option String)
  | count (value : Option UInt64)
  | document (value : Option Json)

instance : Inhabited Setting := ⟨.switch false⟩

/-- The setting of an option that was not supplied. -/
def Shape.inert : Shape → Setting
  | .reference => .ids .empty
  | .references => .ids .empty
  | .flag => .flag none
  | .switch => .switch false
  | .number => .number none
  | .moment => .moment none
  | .text => .text none
  | .count => .count none
  | .document => .document none

/-- Whether a setting is that of an option that was not supplied. -/
def Setting.isInert : Setting → Bool
  | .ids value => value.isEmpty
  | .flag value => value.isNone
  | .switch value => !value
  | .number value => value.isNone
  | .moment value => value.isNone
  | .text value => value.isNone
  | .count value => value.isNone
  | .document value => value.isNone

/-- Why a value was refused for an option. -/
inductive Refusal where
  /-- The value does not have the expected shape. -/
  | mismatch (expected : Shape) (found : Kind)
  /-- The text cannot be read as a date or time. -/
  | unreadableDate (text : String)
  deriving DecidableEq, Repr

namespace Supplied

/-- The set of those identifiers that are not blank. -/
def nonBlank (ids : List Identifier) : IdentifierSet := .ofList (ids.filter fun id => !id.isBlank)

/-- The identifier that a single value denotes, as a set. -/
def reference? (value : Supplied) : Option IdentifierSet :=
  value.identifier?.map fun id => nonBlank [id]

/-- Whether a value may stand in a list of identifiers. -/
def isReferenceItem (item : Supplied) : Bool := item.isNull || item.identifier?.isSome

/-- The identifiers that a list, in which nulls are skipped, or a single value denotes. -/
def references? (value : Supplied) : Option IdentifierSet :=
  match value with
  | .list items =>
    if items.all isReferenceItem then some (nonBlank (items.filterMap identifier?)) else none
  | _ => value.reference?

/-- A truth value, or its name in any mixture of small and capital ASCII letters. -/
def truth? : Supplied → Option Bool
  | .bool value => some value
  | .text value =>
    if value.toLower = "true" then some true
    else if value.toLower = "false" then some false
    else none
  | _ => none

/-- An integer or a finite double. -/
def number? : Supplied → Option Number
  | .int value => some (.ofInt64 value)
  | .float value => Number.ofBinary64? value
  | _ => none

/-- An instant, the start of a day, or the instant that a text denotes. -/
def instant? : Supplied → Option Instant
  | .instant value => some value
  | .date value => some (.ofDay value)
  | .text value => Time.readTimestamp value
  | _ => none

/-- A text. -/
def text? : Supplied → Option String
  | .text value => some value
  | _ => none

/-- An integer that is not negative. -/
def count? : Supplied → Option UInt64
  | .int value => if 0 ≤ value.toInt then some (.ofNat value.toInt.toNat) else none
  | _ => none

end Supplied

namespace Shape

/-- The setting of a value other than null, if the value has the shape. -/
def setting? (shape : Shape) (value : Supplied) : Option Setting :=
  match shape with
  | .reference => value.reference?.map .ids
  | .references => value.references?.map .ids
  | .flag => value.truth?.map fun truth => .flag (some truth)
  | .switch => value.truth?.map .switch
  | .number => value.number?.map fun n => .number (some n)
  | .moment => value.instant?.map fun t => .moment (some t.canonical)
  | .text => value.text?.map fun content => .text (some content)
  | .count => value.count?.map fun n => .count (some n)
  | .document => some (.document (some value.toJson))

/-- Why a value that does not have the shape is refused; a list is refused as a whole. -/
def refusal (shape : Shape) (value : Supplied) : Refusal :=
  match shape, value with
  | .moment, .text content => .unreadableDate content
  | _, _ => .mismatch shape value.kind

/-- The setting of a supplied value. -/
def read (shape : Shape) (value : Supplied) : Except Refusal Setting :=
  if value.isNull then .ok shape.inert
  else
    match shape.setting? value with
    | some setting => .ok setting
    | none => .error (shape.refusal value)

/-- The inert setting of every shape is inert. -/
@[simp] theorem isInert_inert (shape : Shape) : shape.inert.isInert = true := by
  cases shape <;> rfl

end Shape

end FacetedSearch
