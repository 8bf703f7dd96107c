import FacetedSearch.Increasing
import FacetedSearch.Json.Basic
import FacetedSearch.Text.Blank

/-!
# Identifiers

Records are identified by numbers or by texts. Numbers come before texts; numbers are
in order of size and texts in order of their UTF-8 bytes. A set of identifiers is
kept in increasing order, so equal sets are equal lists.
-/

namespace FacetedSearch

/-- The identifier of a record. -/
inductive Identifier where
  | number (value : Int64)
  | text (value : String)
  deriving DecidableEq

namespace Identifier

/-- Numbers before texts, each in their own order. -/
def Less : Identifier → Identifier → Prop
  | .number a, .number b => a < b
  | .number _, .text _ => True
  | .text _, .number _ => False
  | .text a, .text b => a < b

instance (a b : Identifier) : Decidable (a.Less b) :=
  match a, b with
  | .number a, .number b => inferInstanceAs (Decidable (a < b))
  | .number _, .text _ => .isTrue trivial
  | .text _, .number _ => .isFalse id
  | .text a, .text b => inferInstanceAs (Decidable (a < b))

theorem less_irrefl : ∀ a : Identifier, ¬ a.Less a
  | .number _ => Int64.lt_irrefl
  | .text value => String.lt_irrefl value

theorem less_trans : ∀ {a b c : Identifier}, a.Less b → b.Less c → a.Less c
  | .number _, .number _, .number _, hab, hbc => Int64.lt_trans hab hbc
  | .number _, _, .text _, _, _ => trivial
  | .text _, .text _, .text _, hab, hbc => String.lt_trans hab hbc
  | .number _, .text _, .number _, _, hbc => hbc.elim
  | .text _, .number _, _, hab, _ => hab.elim
  | .text _, .text _, .number _, _, hbc => hbc.elim

/-- Of two different identifiers one is less. -/
theorem less_of_not_less_of_ne {a b : Identifier} (hless : ¬ a.Less b) (hne : a ≠ b) :
    b.Less a := by
  cases a with
  | number a =>
    cases b with
    | number b =>
      exact Int64.lt_of_le_of_ne (Int64.not_lt.1 hless) fun heq => hne (congrArg number heq.symm)
    | text b => exact absurd trivial hless
  | text a =>
    cases b with
    | number b => trivial
    | text b => exact NameMap.lt_of_not_lt_of_ne hless fun heq => hne (congrArg text heq)

/-- A text without any character that is not white space identifies nothing. -/
def isBlank : Identifier → Bool
  | .number _ => false
  | .text value => Text.allBlank value

/-- The identifier in JSON. -/
def toJson : Identifier → Json
  | .number value => .ofInt64 value
  | .text value => .string value

/-- The identifier in words. -/
def label : Identifier → String
  | .number value => toString value.toInt
  | .text value => value

/-- The identifier that a JSON value denotes: an integer that fits a signed word, or a string. -/
def ofJson? : Json → Option Identifier
  | .number n => n.int64?.map .number
  | .string value => some (.text value)
  | _ => none

/-- Put an identifier at its place in an increasing list; equal ones are kept. -/
def insertSorted (id : Identifier) : List Identifier → List Identifier
  | [] => [id]
  | first :: rest =>
    if first.Less id then first :: insertSorted id rest else id :: first :: rest

/-- The identifiers in increasing order, equal ones kept. -/
def sorted (ids : List Identifier) : List Identifier := ids.foldr insertSorted []

end Identifier

/-- A finite set of identifiers. -/
structure IdentifierSet where
  /-- The members in strictly increasing order. -/
  members : List Identifier
  increasing : members.Pairwise Identifier.Less

namespace IdentifierSet

/-- Put an identifier at its place in a strictly increasing list, once. -/
def insertMember (id : Identifier) : List Identifier → List Identifier
  | [] => [id]
  | first :: rest =>
    if id.Less first then id :: first :: rest
    else if id = first then first :: rest
    else first :: insertMember id rest

/-- The members after an insertion. -/
theorem mem_insertMember {id other : Identifier} {members : List Identifier} :
    other ∈ insertMember id members ↔ other = id ∨ other ∈ members := by
  induction members with
  | nil => simp [insertMember]
  | cons first rest ih =>
    rw [insertMember]
    split
    · simp
    · split
      · next heq =>
        subst heq
        simp
      · simp [ih, or_left_comm]

/-- An insertion keeps the list increasing. -/
theorem pairwise_insertMember (id : Identifier) {members : List Identifier}
    (h : members.Pairwise Identifier.Less) :
    (insertMember id members).Pairwise Identifier.Less := by
  induction members with
  | nil => simp [insertMember]
  | cons first rest ih =>
    have ⟨hfirst, hrest⟩ := List.pairwise_cons.1 h
    rw [insertMember]
    split
    · next hless =>
      refine List.pairwise_cons.2 ⟨fun other hother => ?_, h⟩
      rcases List.mem_cons.1 hother with rfl | hmem
      · exact hless
      · exact Identifier.less_trans hless (hfirst other hmem)
    · split
      · exact h
      · next hless hne =>
        refine List.pairwise_cons.2 ⟨fun other hother => ?_, ih hrest⟩
        rcases mem_insertMember.1 hother with rfl | hmem
        · exact Identifier.less_of_not_less_of_ne hless hne
        · exact hfirst other hmem

/-- The set without members. -/
def empty : IdentifierSet := ⟨[], .nil⟩

/-- Add a member. -/
def insert (ids : IdentifierSet) (id : Identifier) : IdentifierSet :=
  ⟨insertMember id ids.members, pairwise_insertMember id ids.increasing⟩

/-- The set of the identifiers of a list. -/
def ofList (ids : List Identifier) : IdentifierSet := ids.foldr (fun id set => set.insert id) empty

/-- Whether there is no member. -/
def isEmpty (ids : IdentifierSet) : Bool := ids.members.isEmpty

/-- The members of the set of a list are those of the list. -/
@[simp] theorem mem_members_ofList {id : Identifier} {ids : List Identifier} :
    id ∈ (ofList ids).members ↔ id ∈ ids := by
  induction ids with
  | nil => simp [ofList, empty]
  | cons first rest ih =>
    have hmem : id ∈ (ofList (first :: rest)).members ↔ id = first ∨ id ∈ (ofList rest).members :=
      mem_insertMember
    rw [hmem, ih, List.mem_cons]

/-- Sets with the same members are equal. -/
theorem ext_mem {a b : IdentifierSet} (h : ∀ id, id ∈ a.members ↔ id ∈ b.members) : a = b := by
  obtain ⟨xs, hx⟩ := a
  obtain ⟨ys, hy⟩ := b
  have heq : xs = ys := eq_of_mem_iff_of_pairwise Identifier.less_irrefl
    (fun _ _ _ => Identifier.less_trans) hx hy h
  subst heq
  rfl

end IdentifierSet

end FacetedSearch
