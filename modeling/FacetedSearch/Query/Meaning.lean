import FacetedSearch.Query.Basic

/-!
# The meaning of queries

Which records a query selects. A record is known by the values of its
fields and by three predicates that are left open: whether a field lies within
a bound, whether its text has given words, and whether one of several texts
resembles a query.
-/

namespace FacetedSearch

universe u

/-- What is known about records. -/
structure RecordModel (Record : Type u) where
  /-- The values of a field. -/
  values : Record → String → List Json
  /-- A field has a value within a bound. -/
  Within : Record → String → Bound → Json → Prop
  /-- The text of a field has the words of a query. -/
  HasWords : Record → String → String → Operator → Prop
  /-- The text of one of several fields resembles a query, up to a fuzziness. -/
  Resembles : Record → List String → String → String → Prop

variable {Record : Type u}

mutual

/-- A clause holds of a record. -/
def Clause.Holds (model : RecordModel Record) (record : Record) : Clause → Prop
  | .term field value => value ∈ model.values record field
  | .terms field values => ∃ value ∈ values, value ∈ model.values record field
  | .present field => model.values record field ≠ []
  | .range field bound value => model.Within record field bound value
  | .words field query operator => model.HasWords record field query operator
  | .fuzzy fields query fuzziness => model.Resembles record fields query fuzziness
  | .group query => query.Holds model record

/-- Every clause of a list holds. -/
def Clause.AllHold (model : RecordModel Record) (record : Record) : List Clause → Prop
  | [] => True
  | clause :: rest => clause.Holds model record ∧ Clause.AllHold model record rest

/-- No clause of a list holds. -/
def Clause.NoneHolds (model : RecordModel Record) (record : Record) : List Clause → Prop
  | [] => True
  | clause :: rest => ¬ clause.Holds model record ∧ Clause.NoneHolds model record rest

/-- At least so many clauses of a list hold. -/
def Clause.AtLeastHold (model : RecordModel Record) (record : Record) : List Clause → Nat → Prop
  | [], n => n = 0
  | clause :: rest, n =>
    clause.Holds model record ∧ Clause.AtLeastHold model record rest (n - 1) ∨
      Clause.AtLeastHold model record rest n

/--
A boolean query holds of a record: what is required holds, what is excluded does
not, and enough of the alternatives hold, of which none is needed without a least number.
-/
def BooleanQuery.Holds (model : RecordModel Record) (record : Record) : BooleanQuery → Prop
  | ⟨filter, mustNot, must, should, minimum⟩ =>
    Clause.AllHold model record filter ∧ Clause.NoneHolds model record mustNot ∧
      Clause.AllHold model record must ∧
      Clause.AtLeastHold model record should ((minimum.getD 0).toNat)

end

/-- Every clause of a list holds exactly if each one does. -/
theorem Clause.allHold_iff (model : RecordModel Record) (record : Record) (clauses : List Clause) :
    Clause.AllHold model record clauses ↔ ∀ clause ∈ clauses, clause.Holds model record := by
  induction clauses with
  | nil => simp [Clause.AllHold]
  | cons clause rest ih => simp [Clause.AllHold, ih]

/-- No clause of a list holds exactly if each one does not. -/
theorem Clause.noneHolds_iff (model : RecordModel Record) (record : Record)
    (clauses : List Clause) :
    Clause.NoneHolds model record clauses ↔ ∀ clause ∈ clauses, ¬ clause.Holds model record := by
  induction clauses with
  | nil => simp [Clause.NoneHolds]
  | cons clause rest ih => simp [Clause.NoneHolds, ih]

end FacetedSearch
