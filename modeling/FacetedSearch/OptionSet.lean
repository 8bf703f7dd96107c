import FacetedSearch.SearchError

/-!
# Option sets

The options that a caller supplies, by name. A later value of a name takes the place of
an earlier one, and the options are listed in increasing order of their names,
whatever the order in which they were supplied.
-/

namespace FacetedSearch

/-- Supplied values by the names of their options. -/
abbrev OptionSet := NameMap Supplied

namespace OptionSet

/-- The name under which a payload as a whole is reported. -/
def rootName : String := "<root>"

/-- The options of a JSON payload, which must be an object. -/
def ofJson (payload : Json) : Except SearchError OptionSet :=
  match payload with
  | .object members =>
    .ok (NameMap.ofList (members.map fun member => (member.1, Supplied.ofJson member.2)))
  | _ => .error (.refused rootName (.mismatch .document (Supplied.ofJson payload).kind))

/-! ### Filling an option set step by step -/

/-- One call with which a caller changes an option set. -/
inductive Step where
  /-- Set the value of a name, and answer the value that it displaces. -/
  | insert (name : String) (value : Supplied)
  /-- Set the value of a name in a chain of calls, which has no answer. -/
  | chain (name : String) (value : Supplied)
  /-- Take a name out, and answer its value. -/
  | remove (name : String)
  /-- Replace the whole set by one made of pairs. -/
  | ofPairs (pairs : List (String × Supplied))
  /-- Replace the whole set by one made of a JSON payload. -/
  | ofJson (payload : Json)

/-- The answer to a step and the set after it. A payload that is refused leaves the set alone. -/
def Step.apply (options : OptionSet) : Step → Except SearchError (Option Supplied) × OptionSet
  | .insert name value =>
    let (displaced, written) := options.exchange name value
    (.ok displaced, written)
  | .chain name value => (.ok none, (options.exchange name value).2)
  | .remove name =>
    let (taken, left) := NameMap.remove options name
    (.ok taken, left)
  | .ofPairs pairs => (.ok none, NameMap.ofList pairs)
  | .ofJson payload =>
    match OptionSet.ofJson payload with
    | .ok replaced => (.ok none, replaced)
    | .error error => (.error error, options)

/-- The set after steps from the empty one. -/
def run (steps : List Step) : OptionSet :=
  steps.foldl (fun options step => (step.apply options).2) .empty

end OptionSet

end FacetedSearch
