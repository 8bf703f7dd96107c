import FacetedSearch.Query.Rendering

/-!
# Members of objects

An object is written as a list of members, some of them left out. What stands under a
name can be looked up, and tells whether the member was left out: a member that is null is
there. The members of an object stand in increasing order of their names, so that equal
objects are equal lists.
-/

namespace FacetedSearch

namespace Json

/-- What stands under a name in an object. -/
def member? (value : Json) (name : String) : Option Json :=
  match value with
  | .object members => members.lookup name
  | _ => none

/-- The array of the items, if there are any. -/
def arrayOf? : List Json → Option Json
  | [] => none
  | items => some (.array items)

/-- The items are known from their array or from the lack of one. -/
theorem eq_of_arrayOf? {items items' : List Json} (h : arrayOf? items = arrayOf? items') :
    items = items' := by
  cases items with
  | nil =>
    cases items' with
    | nil => rfl
    | cons item' rest' => simp [arrayOf?] at h
  | cons item rest =>
    cases items' with
    | nil => simp [arrayOf?] at h
    | cons item' rest' => simpa [arrayOf?] using h

/-- There is an array exactly if there are items, and it is that of the items. -/
theorem arrayOf?_eq_some_iff {items : List Json} {value : Json} :
    arrayOf? items = some value ↔ items ≠ [] ∧ value = .array items := by
  cases items with
  | nil => simp [arrayOf?]
  | cons item rest => simp [arrayOf?, eq_comm]

@[simp] theorem member?_object (members : List (String × Json)) (name : String) :
    (object members).member? name = members.lookup name := rfl

/-- Unsigned words are told apart by their numbers. -/
theorem ofUInt64_injective : Function.Injective ofUInt64 := by
  intro m n h
  have hvalue : (m.toNat : Int) = n.toNat := by
    simpa [ofUInt64, Number.ofUInt64] using h
  exact UInt64.toNat_inj.mp (Int.ofNat.inj hvalue)

/-- An optional member is found under its own name only. -/
@[simp] theorem lookup_optional (name other : String) (value : Option Json) :
    (optional name value).lookup other = if other = name then value else none := by
  cases value with
  | none => simp [optional]
  | some value => rw [optional, NameMap.lookup_cons_entry, List.lookup_nil]

/-- A list is found under its own name only, and only if it is not empty. -/
@[simp] theorem lookup_nonEmpty (name other : String) (items : List Json) :
    (nonEmpty name items).lookup other = if other = name then arrayOf? items else none := by
  cases items with
  | nil => simp [nonEmpty, arrayOf?]
  | cons item rest => rw [nonEmpty, NameMap.lookup_cons_entry, List.lookup_nil, arrayOf?] <;> simp

/-! ### Taking out and setting members -/

/-- Nothing stands under the name of a member that was taken out; the others stay. -/
theorem member?_removeMember (value : Json) (name other : String) :
    (value.removeMember name).member? other =
      if other = name then none else value.member? other := by
  cases value with
  | object members => exact NameMap.lookup_filter_ne name other members
  | _ => exact (ite_self none).symm

/-- The member that was set stands under its name; the others stay. -/
theorem member?_setMember (value : Json) (name other : String) (member : Json) :
    (value.setMember name member).member? other =
      if other = name then some member else value.member? other := by
  cases value with
  | object members => exact NameMap.lookup_insertEntry name other member members
  | _ => exact NameMap.lookup_cons_entry other name member []

/-! ### Order -/

mutual

/-- In every object of the value each name is less than those after it. -/
def Ordered : Json → Prop
  | .array items => AllOrdered items
  | .object members => (members.map (·.1)).Pairwise (· < ·) ∧ MembersOrdered members
  | _ => True

/-- Every value of a list is ordered. -/
def AllOrdered : List Json → Prop
  | [] => True
  | item :: rest => item.Ordered ∧ AllOrdered rest

/-- The value of every member is ordered. -/
def MembersOrdered : List (String × Json) → Prop
  | [] => True
  | (_, value) :: rest => value.Ordered ∧ MembersOrdered rest

end

theorem allOrdered_iff (items : List Json) : AllOrdered items ↔ ∀ item ∈ items, item.Ordered := by
  induction items with
  | nil => simp [AllOrdered]
  | cons item rest ih => rw [AllOrdered, ih, List.forall_mem_cons]

theorem membersOrdered_iff (members : List (String × Json)) :
    MembersOrdered members ↔ ∀ member ∈ members, member.2.Ordered := by
  induction members with
  | nil => simp [MembersOrdered]
  | cons member rest ih =>
    obtain ⟨name, value⟩ := member
    rw [MembersOrdered, ih, List.forall_mem_cons]

/-- The object of one ordered member is ordered. -/
theorem ordered_field {name : String} {value : Json} (h : value.Ordered) :
    (field name value).Ordered := by
  rw [field, Ordered]
  exact ⟨List.pairwise_singleton _ name, h, trivial⟩

theorem membersOrdered_append (members members' : List (String × Json)) :
    MembersOrdered (members ++ members') ↔ MembersOrdered members ∧ MembersOrdered members' := by
  simp only [membersOrdered_iff, List.forall_mem_append]

/-- The object of a map of ordered values is ordered. -/
theorem ordered_entries {members : NameMap Json}
    (h : ∀ name value, members.get? name = some value → value.Ordered) :
    (object members.entries).Ordered := by
  rw [Ordered, membersOrdered_iff, List.pairwise_map]
  refine ⟨members.increasing, fun member hmember => ?_⟩
  exact h member.1 member.2 ((members.mem_entries_iff member.1 member.2).mp hmember)

/-- An optional member has at most its own name. -/
theorem names_optional (name : String) (value : Option Json) :
    ((optional name value).map (·.1)).Sublist [name] := by
  cases value with
  | none => exact List.nil_sublist [name]
  | some value => exact List.Sublist.refl [name]

theorem membersOrdered_optional {name : String} {value : Option Json}
    (h : ∀ found, value = some found → found.Ordered) : MembersOrdered (optional name value) := by
  cases value with
  | none => trivial
  | some value => exact ⟨h value rfl, trivial⟩

/-- A list that may be left out has at most its own name. -/
theorem names_nonEmpty (name : String) (items : List Json) :
    ((nonEmpty name items).map (·.1)).Sublist [name] := by
  cases items with
  | nil => exact List.nil_sublist [name]
  | cons item rest => exact List.Sublist.refl [name]

theorem membersOrdered_nonEmpty {name : String} {items : List Json} (h : AllOrdered items) :
    MembersOrdered (nonEmpty name items) := by
  cases items with
  | nil => trivial
  | cons item rest => exact ⟨h, trivial⟩

end Json

end FacetedSearch
