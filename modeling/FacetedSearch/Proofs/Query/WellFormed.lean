import FacetedSearch.Proofs.Query.Appending
import FacetedSearch.Proofs.Text.ByteOrder
import Mathlib.Algebra.Ring.Nat

/-!
# Well-formed queries

The clauses that may stand in each list of a query, and how many of them may be groups. Appended
queries have the clauses of both, and at most as many groups as both together, so the form of a
query made of several parts is known from the forms of the parts. Its size is their sum.
-/

namespace FacetedSearch

universe u

/--
Values of identifiers: at least one and no two equal, numbers in increasing order before texts in
increasing order of their UTF-8 bytes.
-/
structure Json.AreIdentifiers (values : List Json) : Prop where
  nonempty : values ≠ []
  nodup : values.Nodup
  ordered : ∃ (numbers : List Int64) (texts : List String),
    values = numbers.map .ofInt64 ++ texts.map .string ∧ numbers.Pairwise (· < ·) ∧
      texts.Pairwise fun a b => Text.utf8 a < Text.utf8 b

/-- A query asks for one of several alternatives and for nothing else. -/
structure BooleanQuery.IsChoice (query : BooleanQuery) : Prop where
  filter : query.filter = []
  mustNot : query.mustNot = []
  must : query.must = []
  should : query.should ≠ []
  minimum : query.minimum = some 1

/-- Alternatives, if there are any, are a choice. -/
theorem BooleanQuery.isChoice_of_cons (clause : Clause) (rest : List Clause) :
    IsChoice { should := clause :: rest, minimum := some 1 } :=
  ⟨rfl, rfl, rfl, List.cons_ne_nil clause rest, rfl⟩

namespace Clause

/-- The clause asks for one of several identifiers. -/
inductive IsTerms : Clause → Prop
  | terms {field : String} {values : List Json} (h : Json.AreIdentifiers values) :
      IsTerms (.terms field values)

/-- The clause asks for one value. -/
inductive IsTerm : Clause → Prop
  | term (field : String) (value : Json) : IsTerm (.term field value)

/-- The clauses that may be required without a score. -/
inductive MayFilter : Clause → Prop
  | terms {clause : Clause} (h : clause.IsTerms) : MayFilter clause
  | term (field : String) (value : Json) : MayFilter (.term field value)
  | present (field : String) : MayFilter (.present field)
  | range (field : String) (bound : Bound) (value : Json) : MayFilter (.range field bound value)
  /-- Alternatives for identifiers. -/
  | group {query : BooleanQuery} (hchoice : query.IsChoice)
      (h : ∀ clause ∈ query.should, clause.IsTerms) : MayFilter (.group query)

/-- The clauses that may be required with a score. -/
inductive MayScore : Clause → Prop
  | present (field : String) : MayScore (.present field)
  | words (field query : String) (operator : Operator) : MayScore (.words field query operator)
  /-- An inexact match, with exact values as alternatives to it. -/
  | group {query : BooleanQuery} {fields : List String} {text fuzziness : String}
      {others : List Clause} (hchoice : query.IsChoice)
      (hshould : query.should = .fuzzy fields text fuzziness :: others)
      (h : ∀ clause ∈ others, clause.IsTerm) : MayScore (.group query)

/-- The clauses that may be excluded. -/
inductive MayExclude : Clause → Prop
  | term (field : String) (value : Json) : MayExclude (.term field value)
  | present (field : String) : MayExclude (.present field)

/-- Whether a clause is a group. -/
def isGroup : Clause → Bool
  | .group _ => true
  | _ => false

/-- Whether a clause is a phrase or a group, which is what a search box asks for. -/
def isSearch : Clause → Bool
  | .words _ _ _ => true
  | clause => clause.isGroup

/-- A clause stands in a query: in one of its lists, or in a group that does. -/
inductive StandsIn (clause : Clause) : BooleanQuery → Prop
  | listed {query : BooleanQuery} {occurrence : Occurrence}
      (h : clause ∈ query.clauses occurrence) : StandsIn clause query
  | nested {query inner : BooleanQuery} {occurrence : Occurrence}
      (hgroup : .group inner ∈ query.clauses occurrence) (h : StandsIn clause inner) :
      StandsIn clause query

end Clause

namespace BooleanQuery

/--
The lists of a query hold only what they may, with at most so many groups in its filter and so
many phrases and groups in what must hold, and with neither alternatives nor a least number.
-/
structure FormedWithin (query : BooleanQuery) (groups searches : Nat) : Prop where
  filter : ∀ clause ∈ query.filter, clause.MayFilter
  must : ∀ clause ∈ query.must, clause.MayScore
  mustNot : ∀ clause ∈ query.mustNot, clause.MayExclude
  should : query.should = []
  minimum : query.minimum = none
  groups_le : query.filter.countP Clause.isGroup ≤ groups
  searches_le : query.must.countP Clause.isSearch ≤ searches

/--
A well-formed query has at most one group in its filter, and in what must hold at most one phrase
or group but not both.
-/
def WellFormed (query : BooleanQuery) : Prop := query.FormedWithin 1 1

theorem FormedWithin.mono {query : BooleanQuery} {groups searches groups' searches' : Nat}
    (h : query.FormedWithin groups searches) (hgroups : groups ≤ groups')
    (hsearches : searches ≤ searches') : query.FormedWithin groups' searches' :=
  { h with
    groups_le := Nat.le_trans h.groups_le hgroups
    searches_le := Nat.le_trans h.searches_le hsearches }

theorem formedWithin_empty : empty.FormedWithin 0 0 where
  filter := by simp [empty]
  must := by simp [empty]
  mustNot := by simp [empty]
  should := rfl
  minimum := rfl
  groups_le := Nat.le_refl 0
  searches_le := Nat.le_refl 0

/-- The groups and phrases of appended queries add up. -/
theorem FormedWithin.append {a b : BooleanQuery} {groups searches groups' searches' : Nat}
    (ha : a.FormedWithin groups searches) (hb : b.FormedWithin groups' searches') :
    (a.append b).FormedWithin (groups + groups') (searches + searches') where
  filter := List.forall_mem_append.mpr ⟨ha.filter, hb.filter⟩
  must := List.forall_mem_append.mpr ⟨ha.must, hb.must⟩
  mustNot := List.forall_mem_append.mpr ⟨ha.mustNot, hb.mustNot⟩
  should := by rw [BooleanQuery.append, ha.should, hb.should, List.append_nil]
  minimum := by rw [BooleanQuery.append, ha.minimum, hb.minimum, greatestMinimum]
  groups_le := by
    rw [BooleanQuery.append, List.countP_append]
    exact Nat.add_le_add ha.groups_le hb.groups_le
  searches_le := by
    rw [BooleanQuery.append, List.countP_append]
    exact Nat.add_le_add ha.searches_le hb.searches_le

/-- The form of a query made of several parts, from the forms of the parts. -/
theorem formedWithin_concat {α : Type u} {parts : List α} {part : α → BooleanQuery}
    {groups searches : α → Nat}
    (h : ∀ x ∈ parts, (part x).FormedWithin (groups x) (searches x)) :
    (concat (parts.map part)).FormedWithin (parts.map groups).sum (parts.map searches).sum := by
  induction parts with
  | nil => exact formedWithin_empty
  | cons x rest ih =>
    obtain ⟨hx, hrest⟩ := List.forall_mem_cons.mp h
    simp only [List.map_cons, List.sum_cons, concat_cons]
    exact hx.append (ih hrest)

/-! ### Inexact matches -/

/-- The clauses of a choice are its alternatives. -/
theorem IsChoice.mem_should {query : BooleanQuery} (h : query.IsChoice) {occurrence : Occurrence}
    {clause : Clause} (hmem : clause ∈ query.clauses occurrence) : clause ∈ query.should := by
  cases occurrence with
  | should => exact hmem
  | filter => simp [clauses, h.filter] at hmem
  | must => simp [clauses, h.must] at hmem
  | mustNot => simp [clauses, h.mustNot] at hmem

/-- An inexact match is the first alternative of a group that must hold, and stands only there. -/
theorem FormedWithin.exists_group_of_fuzzy {query : BooleanQuery} {groups searches : Nat}
    (h : query.FormedWithin groups searches) {fields : List String} {text fuzziness : String}
    (hstands : (Clause.fuzzy fields text fuzziness).StandsIn query) :
    ∃ inner others, .group inner ∈ query.must ∧
      inner.should = .fuzzy fields text fuzziness :: others := by
  have hnone {clause : Clause} : clause ∉ query.clauses .should := by
    simp [clauses, h.should]
  cases hstands with
  | @listed _ occurrence hmem =>
    cases occurrence with
    | filter =>
      cases h.filter _ hmem with
      | terms hterms => cases hterms
    | must => cases h.must _ hmem
    | mustNot => cases h.mustNot _ hmem
    | should => exact absurd hmem hnone
  | @nested _ inner occurrence hgroup hinner =>
    cases occurrence with
    | filter =>
      cases h.filter _ hgroup with
      | terms hterms => cases hterms
      | group hchoice hidentifiers =>
        cases hinner with
        | listed hmem => cases hidentifiers _ (hchoice.mem_should hmem)
        | nested hmem => cases hidentifiers _ (hchoice.mem_should hmem)
    | must =>
      cases h.must _ hgroup with
      | @group _ _ _ _ others hchoice hshould hothers =>
        cases hinner with
        | listed hmem =>
          have halternative := hchoice.mem_should hmem
          rw [hshould] at halternative
          rcases List.mem_cons.mp halternative with hfirst | hother
          · exact ⟨inner, others, hgroup, hfirst ▸ hshould⟩
          · cases hothers _ hother
        | nested hmem =>
          have halternative := hchoice.mem_should hmem
          rw [hshould] at halternative
          rcases List.mem_cons.mp halternative with hfirst | hother
          · cases hfirst
          · cases hothers _ hother
    | mustNot => cases h.mustNot _ hgroup
    | should => exact absurd hgroup hnone

/-! ### Queries of one clause -/

theorem formedWithin_filter {clause : Clause} (h : clause.MayFilter) (groups : Nat)
    (hgroups : [clause].countP Clause.isGroup ≤ groups) :
    (single .filter clause).FormedWithin groups 0 where
  filter := List.forall_mem_singleton.mpr h
  must := by simp [single, add, empty]
  mustNot := by simp [single, add, empty]
  should := rfl
  minimum := rfl
  groups_le := hgroups
  searches_le := Nat.le_refl 0

theorem formedWithin_must {clause : Clause} (h : clause.MayScore) (searches : Nat)
    (hsearches : [clause].countP Clause.isSearch ≤ searches) :
    (single .must clause).FormedWithin 0 searches where
  filter := by simp [single, add, empty]
  must := List.forall_mem_singleton.mpr h
  mustNot := by simp [single, add, empty]
  should := rfl
  minimum := rfl
  groups_le := Nat.le_refl 0
  searches_le := hsearches

theorem formedWithin_mustNot {clause : Clause} (h : clause.MayExclude) :
    (single .mustNot clause).FormedWithin 0 0 where
  filter := by simp [single, add, empty]
  must := by simp [single, add, empty]
  mustNot := List.forall_mem_singleton.mpr h
  should := rfl
  minimum := rfl
  groups_le := Nat.le_refl 0
  searches_le := Nat.le_refl 0

/-! ### Sizes -/

@[simp] theorem size_empty : empty.size = 0 := rfl

/-- Appending adds up the sizes. -/
@[simp] theorem size_append (a b : BooleanQuery) : (a.append b).size = a.size + b.size := by
  simp only [size, append, List.length_append]
  omega

/-- The size of a query made of several parts is the sum of theirs. -/
theorem size_concat (queries : List BooleanQuery) :
    (concat queries).size = (queries.map size).sum := by
  induction queries with
  | nil => rfl
  | cons query rest ih => rw [concat_cons, size_append, ih, List.map_cons, List.sum_cons]

@[simp] theorem size_single (occurrence : Occurrence) (clause : Clause) :
    (single occurrence clause).size = 1 := by
  cases occurrence <;> rfl

/-- Alternatives are one clause, if there are any. -/
theorem size_ofAlternatives (occurrence : Occurrence) (alternatives : List Clause) :
    (ofAlternatives occurrence alternatives).size = if alternatives = [] then 0 else 1 := by
  cases alternatives with
  | nil => rfl
  | cons clause rest =>
    rw [ofAlternatives_cons, size_single, if_neg (List.cons_ne_nil clause rest)]

end BooleanQuery

end FacetedSearch
