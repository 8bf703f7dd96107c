import FacetedSearch.OptionSet

/-!
# Schemas

A schema says which options a collection has and which shape each declares.
An option set has a setting for every option of the schema: the inert one
unless a value was supplied. An option that the schema does not have is an
error. Options are taken in increasing order of their names, so of several
faults the one with the least name is reported.
-/

namespace FacetedSearch

/-- An option and its shape. -/
structure Declaration where
  name : String
  shape : Shape
  deriving DecidableEq, Repr

/-- The settings of the options of a schema. -/
structure Settings where
  /-- A setting for every option. -/
  values : NameMap Setting

namespace Settings

/-- The setting of an option. -/
def get? (settings : Settings) (name : String) : Option Setting := settings.values.get? name

/-- The identifiers of an option, none if it does not hold identifiers. -/
def ids (settings : Settings) (name : String) : IdentifierSet :=
  match settings.get? name with
  | some (.ids value) => value
  | _ => .empty

/-- The truth value of a flag, if it is set. -/
def flag (settings : Settings) (name : String) : Option Bool :=
  match settings.get? name with
  | some (.flag value) => value
  | _ => none

/-- Whether an option is a switch that is on. -/
def switch (settings : Settings) (name : String) : Bool :=
  match settings.get? name with
  | some (.switch value) => value
  | _ => false

/-- The number of an option. -/
def number (settings : Settings) (name : String) : Option Number :=
  match settings.get? name with
  | some (.number value) => value
  | _ => none

/-- The canonical text of the moment of an option. -/
def moment (settings : Settings) (name : String) : Option String :=
  match settings.get? name with
  | some (.moment value) => value
  | _ => none

/-- The text of an option. -/
def text (settings : Settings) (name : String) : Option String :=
  match settings.get? name with
  | some (.text value) => value
  | _ => none

/-- The count of an option. -/
def count (settings : Settings) (name : String) : Option UInt64 :=
  match settings.get? name with
  | some (.count value) => value
  | _ => none

/-- The document of an option. -/
def document (settings : Settings) (name : String) : Option Json :=
  match settings.get? name with
  | some (.document value) => value
  | _ => none

end Settings

/-- The options of a collection. -/
structure Schema where
  collection : Collection
  /-- The shape of every option. -/
  shapes : NameMap Shape

namespace Schema

/-- The schema of a list of declarations; the last one of a name counts. -/
def ofDeclarations (collection : Collection) (declarations : List Declaration) : Schema :=
  ⟨collection, .ofList (declarations.map fun declaration => (declaration.name, declaration.shape))⟩

/-- Whether the schema has an option. -/
def contains (schema : Schema) (name : String) : Bool := schema.shapes.contains name

/-- The settings when no option is supplied. -/
def defaults (schema : Schema) : Settings := ⟨schema.shapes.map Shape.inert⟩

/-- The setting of one supplied option. -/
def read (schema : Schema) (name : String) (value : Supplied) : Except SearchError Setting :=
  match schema.shapes.get? name with
  | none => .error (.unknownOption schema.collection name)
  | some shape => (shape.read value).mapError (.refused name)

/-- Write the settings of supplied options over those that there are. -/
def readAll (schema : Schema) : List (String × Supplied) → Settings → Except SearchError Settings
  | [], settings => .ok settings
  | (name, value) :: rest, settings =>
    match schema.read name value with
    | .ok setting => readAll schema rest ⟨settings.values.insert name setting⟩
    | .error error => .error error

/-- The settings of a set of supplied options. -/
def settings (schema : Schema) (options : OptionSet) : Except SearchError Settings :=
  schema.readAll options.entries schema.defaults

end Schema

end FacetedSearch
