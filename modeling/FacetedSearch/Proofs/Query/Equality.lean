import FacetedSearch.Proofs.Query.Appending

/-!
# Equality of queries

Structural equality takes the two zeros among the doubles as the same value and is
reflexive all the same. Queries that are the same in this sense make the same number of
conditions, where the conditions inside a group are counted each and not as one clause.
-/

namespace FacetedSearch

/-! ### Reflexivity -/

@[simp] theorem Number.same_self (n : Number) : n.same n = true := by
  cases n <;> simp [same, Binary64.sameNumber]

namespace Json

mutual

/-- Every JSON value is the same as itself. -/
@[simp] theorem same_self : ∀ value : Json, value.same value = true
  | .null => rfl
  | .bool _ => by simp [same]
  | .number _ => by simp [same]
  | .string _ => by simp [same]
  | .array items => by rw [same, sameItems_self items]
  | .object members => by rw [same, sameMembers_self members]

/-- Every list of JSON values is the same as itself. -/
@[simp] theorem sameItems_self : ∀ items : List Json, sameItems items items = true
  | [] => rfl
  | item :: rest => by rw [sameItems, same_self item, sameItems_self rest, Bool.and_self]

/-- Every list of members is the same as itself. -/
@[simp] theorem sameMembers_self : ∀ members : List (String × Json),
    sameMembers members members = true
  | [] => rfl
  | (name, value) :: rest => by
    rw [sameMembers, same_self value, sameMembers_self rest, beq_self_eq_true, Bool.and_self,
      Bool.and_self]

end

end Json

mutual

/-- Every clause is the same as itself. -/
@[simp] theorem Clause.same_self : ∀ clause : Clause, clause.same clause = true
  | .term _ _ => by simp [Clause.same]
  | .terms _ _ => by simp [Clause.same]
  | .present _ => by simp [Clause.same]
  | .range _ _ _ => by simp [Clause.same]
  | .words _ _ _ => by simp [Clause.same]
  | .fuzzy _ _ _ => by simp [Clause.same]
  | .group query => by rw [Clause.same, BooleanQuery.same_self query]

/-- Every list of clauses is the same as itself. -/
@[simp] theorem Clause.sameAll_self : ∀ clauses : List Clause, Clause.sameAll clauses clauses = true
  | [] => rfl
  | clause :: rest => by
    rw [Clause.sameAll, Clause.same_self clause, Clause.sameAll_self rest, Bool.and_self]

/-- Every query is the same as itself. -/
@[simp] theorem BooleanQuery.same_self : ∀ query : BooleanQuery, query.same query = true
  | ⟨filter, mustNot, must, should, minimum⟩ => by
    rw [BooleanQuery.same, Clause.sameAll_self filter, Clause.sameAll_self mustNot,
      Clause.sameAll_self must, Clause.sameAll_self should]
    simp

end

/-! ### Conditions -/

mutual

/-- The number of conditions of a clause, those of a group counted each. -/
def Clause.conditions : Clause → Nat
  | .term _ _ => 1
  | .terms _ _ => 1
  | .present _ => 1
  | .range _ _ _ => 1
  | .words _ _ _ => 1
  | .fuzzy _ _ _ => 1
  | .group query => query.conditions

/-- The number of conditions of several clauses. -/
def Clause.allConditions : List Clause → Nat
  | [] => 0
  | clause :: rest => clause.conditions + Clause.allConditions rest

/-- The number of conditions of a query. -/
def BooleanQuery.conditions : BooleanQuery → Nat
  | ⟨filter, mustNot, must, should, _⟩ =>
    Clause.allConditions filter + Clause.allConditions mustNot + Clause.allConditions must +
      Clause.allConditions should

end

mutual

/-- Clauses that are the same have as many conditions. -/
theorem Clause.conditions_eq_of_same : ∀ a b : Clause, a.same b = true →
    a.conditions = b.conditions
  | .term _ _, b, h => by cases b <;> simp_all [Clause.same, Clause.conditions]
  | .terms _ _, b, h => by cases b <;> simp_all [Clause.same, Clause.conditions]
  | .present _, b, h => by cases b <;> simp_all [Clause.same, Clause.conditions]
  | .range _ _ _, b, h => by cases b <;> simp_all [Clause.same, Clause.conditions]
  | .words _ _ _, b, h => by cases b <;> simp_all [Clause.same, Clause.conditions]
  | .fuzzy _ _ _, b, h => by cases b <;> simp_all [Clause.same, Clause.conditions]
  | .group query, b, h => by
    cases b with
    | group other =>
      rw [Clause.same] at h
      rw [Clause.conditions, Clause.conditions, BooleanQuery.conditions_eq_of_same query other h]
    | _ => simp [Clause.same] at h

/-- Lists of clauses that are the same have as many conditions. -/
theorem Clause.allConditions_eq_of_sameAll : ∀ as bs : List Clause,
    Clause.sameAll as bs = true → Clause.allConditions as = Clause.allConditions bs
  | [], [], _ => rfl
  | [], _ :: _, h => by simp [Clause.sameAll] at h
  | _ :: _, [], h => by simp [Clause.sameAll] at h
  | a :: as, b :: bs, h => by
    rw [Clause.sameAll, Bool.and_eq_true] at h
    rw [Clause.allConditions, Clause.allConditions, Clause.conditions_eq_of_same a b h.1,
      Clause.allConditions_eq_of_sameAll as bs h.2]

/-- Queries that are the same have as many conditions. -/
theorem BooleanQuery.conditions_eq_of_same : ∀ a b : BooleanQuery, a.same b = true →
    a.conditions = b.conditions
  | ⟨f, n, m, s, _⟩, ⟨f', n', m', s', _⟩, h => by
    simp only [BooleanQuery.same, Bool.and_eq_true] at h
    obtain ⟨⟨⟨⟨hfilter, hmustNot⟩, hmust⟩, hshould⟩, -⟩ := h
    rw [BooleanQuery.conditions, BooleanQuery.conditions,
      Clause.allConditions_eq_of_sameAll f f' hfilter,
      Clause.allConditions_eq_of_sameAll n n' hmustNot,
      Clause.allConditions_eq_of_sameAll m m' hmust,
      Clause.allConditions_eq_of_sameAll s s' hshould]

end

/-- The conditions of appended lists are those of both. -/
theorem Clause.allConditions_append (clauses clauses' : List Clause) :
    Clause.allConditions (clauses ++ clauses') =
      Clause.allConditions clauses + Clause.allConditions clauses' := by
  induction clauses with
  | nil => simp [Clause.allConditions]
  | cons clause rest ih =>
    rw [List.cons_append, Clause.allConditions, Clause.allConditions, ih, Nat.add_assoc]

/-- Clauses other than groups are one condition each. -/
theorem Clause.allConditions_eq_length {clauses : List Clause}
    (h : ∀ clause ∈ clauses, clause.conditions = 1) :
    Clause.allConditions clauses = clauses.length := by
  induction clauses with
  | nil => rfl
  | cons clause rest ih =>
    obtain ⟨hclause, hrest⟩ := List.forall_mem_cons.mp h
    rw [Clause.allConditions, hclause, ih hrest, List.length_cons, Nat.add_comm]

namespace BooleanQuery

/-- The conditions of a query are those of its four lists. -/
theorem conditions_eq (query : BooleanQuery) :
    query.conditions = Clause.allConditions query.filter + Clause.allConditions query.mustNot +
      Clause.allConditions query.must + Clause.allConditions query.should := by
  obtain ⟨filter, mustNot, must, should, minimum⟩ := query
  rw [conditions]

@[simp] theorem conditions_empty : empty.conditions = 0 := rfl

/-- Appending adds up the conditions. -/
theorem conditions_append (a b : BooleanQuery) :
    (a.append b).conditions = a.conditions + b.conditions := by
  simp only [conditions_eq, append, Clause.allConditions_append]
  omega

@[simp] theorem conditions_single (occurrence : Occurrence) (clause : Clause) :
    (single occurrence clause).conditions = clause.conditions := by
  cases occurrence <;>
    simp [single, add, empty, conditions_eq, Clause.allConditions]

/-- Alternatives count each. -/
@[simp] theorem conditions_ofAlternatives (occurrence : Occurrence) (alternatives : List Clause) :
    (ofAlternatives occurrence alternatives).conditions = Clause.allConditions alternatives := by
  cases alternatives with
  | nil => rfl
  | cons clause rest =>
    rw [ofAlternatives_cons, conditions_single, Clause.conditions, conditions_eq]
    simp [Clause.allConditions]

end BooleanQuery

end FacetedSearch
