import FacetedSearch.Query.Basic

/-!
# Building queries

A query is built by adding clauses and appending other queries, one step after the other. What a
step adds to each list can be told from the step alone. Parts of a query may also be put together
in groups of any depth before these are appended to each other.
-/

namespace FacetedSearch

universe u

namespace BooleanQuery

/-- Whether a query has neither clauses nor a least number. -/
def isIdle (query : BooleanQuery) : Bool := query.isEmpty && query.minimum.isNone

/-- One step in building a query. -/
inductive Step where
  /-- Add a clause to one of the lists. -/
  | add (occurrence : Occurrence) (clause : Clause)
  /-- Append the lists of another query. -/
  | append (query : BooleanQuery)

namespace Step

/-- The query after a step. -/
def apply (query : BooleanQuery) : Step → BooleanQuery
  | .add occurrence clause => query.add occurrence clause
  | .append other => query.append other

/-- The clauses that a step adds to one of the lists. -/
def added : Step → Occurrence → List Clause
  | .add occurrence clause, list => if list = occurrence then [clause] else []
  | .append query, list => query.clauses list

/-- The least number that a step brings with an appended query. -/
def minimum : Step → Option UInt32
  | .add _ _ => none
  | .append query => query.minimum

end Step

/-- The query after steps from the empty one. -/
def run (steps : List Step) : BooleanQuery := steps.foldl Step.apply empty

end BooleanQuery

/-- A way to put parts together, in groups of any depth. -/
inductive Grouping (α : Type u) where
  | nothing
  | part (x : α)
  /-- What is put together first, and what is put after it. -/
  | both (first later : Grouping α)

namespace Grouping

variable {α : Type u}

/-- The parts in order, whatever the groups. -/
def parts : Grouping α → List α
  | .nothing => []
  | .part x => [x]
  | .both first later => first.parts ++ later.parts

/-- The query of the parts, appended group by group. -/
def query (queryOf : α → BooleanQuery) : Grouping α → BooleanQuery
  | .nothing => .empty
  | .part x => queryOf x
  | .both first later => (first.query queryOf).append (later.query queryOf)

end Grouping

end FacetedSearch
