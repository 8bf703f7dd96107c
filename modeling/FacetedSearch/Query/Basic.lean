import FacetedSearch.Json.Basic

/-!
# Boolean queries

A clause is one condition on a record, and a boolean query is four lists of
clauses: those that must hold without or with a score, those that must not hold, and
alternatives of which a least number must hold. Queries may be nested in clauses.
Appending a query appends each of its lists, so the empty query changes nothing.
-/

namespace FacetedSearch

/-- The side and kind of a bound. -/
inductive Bound where
  | above
  | atLeast
  | below
  | atMost
  deriving DecidableEq, Repr

namespace Bound

/-- The name of the bound in a request. -/
def name : Bound → String
  | .above => "gt"
  | .atLeast => "gte"
  | .below => "lt"
  | .atMost => "lte"

/-- Whether the bound itself is within. -/
def isInclusive : Bound → Bool
  | .above => false
  | .atLeast => true
  | .below => false
  | .atMost => true

end Bound

/-- How many of the words of a text must be found. -/
inductive Operator where
  /-- Every word. -/
  | all
  /-- At least one word. -/
  | any
  deriving DecidableEq, Repr

/-- The name of the operator in a request. -/
def Operator.name : Operator → String
  | .all => "and"
  | .any => "or"

/-- The lists of a boolean query. -/
inductive Occurrence where
  /-- Required, without influence on the score. -/
  | filter
  /-- Required and scored. -/
  | must
  /-- Excluded. -/
  | mustNot
  /-- An alternative, scored. -/
  | should
  deriving DecidableEq, Repr

/-- The name of the list in a request. -/
def Occurrence.name : Occurrence → String
  | .filter => "filter"
  | .must => "must"
  | .mustNot => "must_not"
  | .should => "should"

mutual

/-- One condition on a record, or one contribution to its score. -/
inductive Clause where
  /-- The field has the value. -/
  | term (field : String) (value : Json)
  /-- The field has one of the values. -/
  | terms (field : String) (values : List Json)
  /-- The field has a value. -/
  | present (field : String)
  /-- The field has a value within the bound. -/
  | range (field : String) (bound : Bound) (value : Json)
  /-- The text of the field has the words of the query. -/
  | words (field : String) (query : String) (operator : Operator)
  /-- The text of one of the fields resembles the query. -/
  | fuzzy (fields : List String) (query : String) (fuzziness : String)
  /-- A boolean query holds. -/
  | group (query : BooleanQuery)

/-- Four lists of clauses. -/
structure BooleanQuery where
  filter : List Clause := []
  mustNot : List Clause := []
  must : List Clause := []
  should : List Clause := []
  /-- How many of the alternatives must hold. -/
  minimum : Option UInt32 := none

end

/-- The field of a clause that is about a single one. -/
def Clause.field? : Clause → Option String
  | .term field _ => some field
  | .terms field _ => some field
  | .present field => some field
  | .range field _ _ => some field
  | .words field _ _ => some field
  | .fuzzy _ _ _ => none
  | .group _ => none

namespace BooleanQuery

/-- The query without clauses. -/
def empty : BooleanQuery := {}

instance : Inhabited BooleanQuery := ⟨empty⟩

/-- One of the four lists. -/
def clauses (query : BooleanQuery) : Occurrence → List Clause
  | .filter => query.filter
  | .must => query.must
  | .mustNot => query.mustNot
  | .should => query.should

/-- Append a clause to one of the lists. -/
def add (query : BooleanQuery) (occurrence : Occurrence) (clause : Clause) : BooleanQuery :=
  match occurrence with
  | .filter => { query with filter := query.filter ++ [clause] }
  | .must => { query with must := query.must ++ [clause] }
  | .mustNot => { query with mustNot := query.mustNot ++ [clause] }
  | .should => { query with should := query.should ++ [clause] }

/-- The query with a single clause. -/
def single (occurrence : Occurrence) (clause : Clause) : BooleanQuery := empty.add occurrence clause

/-- The greater of two least numbers, or the one that there is. -/
def greatestMinimum : Option UInt32 → Option UInt32 → Option UInt32
  | some a, some b => some (max a b)
  | some a, none => some a
  | none, b => b

/-- Append the clauses of a second query, list by list. -/
def append (a b : BooleanQuery) : BooleanQuery where
  filter := a.filter ++ b.filter
  mustNot := a.mustNot ++ b.mustNot
  must := a.must ++ b.must
  should := a.should ++ b.should
  minimum := greatestMinimum a.minimum b.minimum

/-- Append queries one after the other. -/
def concat (queries : List BooleanQuery) : BooleanQuery := queries.foldl append empty

/-- The query that asks for one of several alternatives, if there are any. -/
def disjunction? (alternatives : List Clause) : Option BooleanQuery :=
  if alternatives.isEmpty then none else some { should := alternatives, minimum := some 1 }

/--
The query of one clause that asks for one of several alternatives, or the empty query without
any.
-/
def ofAlternatives (occurrence : Occurrence) (alternatives : List Clause) : BooleanQuery :=
  match disjunction? alternatives with
  | some query => single occurrence (.group query)
  | none => empty

/-- The number of clauses in the four lists; nested ones are not counted. -/
def size (query : BooleanQuery) : Nat :=
  query.filter.length + query.mustNot.length + query.must.length + query.should.length

/-- Whether the four lists are empty. -/
def isEmpty (query : BooleanQuery) : Bool := query.size == 0

/-! ### Appending -/

@[simp] theorem append_empty (query : BooleanQuery) : query.append empty = query := by
  obtain ⟨filter, mustNot, must, should, minimum⟩ := query
  cases minimum <;> simp [append, empty, greatestMinimum]

@[simp] theorem empty_append (query : BooleanQuery) : empty.append query = query := by
  obtain ⟨filter, mustNot, must, should, minimum⟩ := query
  simp [append, empty, greatestMinimum]

/-- A list of an appended query is made of those of its parts. -/
@[simp] theorem clauses_append (a b : BooleanQuery) (occurrence : Occurrence) :
    (a.append b).clauses occurrence = a.clauses occurrence ++ b.clauses occurrence := by
  cases occurrence <;> rfl

/-- An added clause stands at the end of its list, and no other list changes. -/
theorem clauses_add (query : BooleanQuery) (added occurrence : Occurrence) (clause : Clause) :
    (query.add added clause).clauses occurrence =
      query.clauses occurrence ++ if occurrence = added then [clause] else [] := by
  cases added <;> cases occurrence <;> simp [add, clauses]

end BooleanQuery

/-! ### Equality -/

mutual

/-- Structural equality of clauses, for which the two zeros among the doubles are the same value. -/
def Clause.same : Clause → Clause → Bool
  | .term f v, .term g w => f == g && v.same w
  | .terms f vs, .terms g ws => f == g && Json.sameItems vs ws
  | .present f, .present g => f == g
  | .range f b v, .range g c w => f == g && b == c && v.same w
  | .words f q o, .words g r p => f == g && q == r && o == p
  | .fuzzy fs q z, .fuzzy gs r y => fs == gs && q == r && z == y
  | .group q, .group r => q.same r
  | _, _ => false

/-- Equality of two lists of clauses, clause by clause. -/
def Clause.sameAll : List Clause → List Clause → Bool
  | [], [] => true
  | a :: as, b :: bs => a.same b && Clause.sameAll as bs
  | _, _ => false

/-- Structural equality of queries: the same four lists and the same least number. -/
def BooleanQuery.same : BooleanQuery → BooleanQuery → Bool
  | ⟨f, n, m, s, k⟩, ⟨f', n', m', s', k'⟩ =>
    Clause.sameAll f f' && Clause.sameAll n n' && Clause.sameAll m m' && Clause.sameAll s s' &&
      k == k'

end

end FacetedSearch
