import FacetedSearch.NameMap
import Mathlib.Data.List.Induction

/-!
# Maps written pair by pair

A map made from a list of pairs has, at every name, the value of the last pair of that
name. If no name is repeated, the pairs are the entries.
-/

namespace FacetedSearch

universe u v

variable {α : Type u}

/-! ### The last entry that decides -/

/-- Where a list with one more item at its end is split: before that item or before an old one. -/
theorem concat_eq_append_cons_iff {items before after : List α} {last item : α} :
    items ++ [last] = before ++ item :: after ↔
      (after = [] ∧ items = before ∧ last = item) ∨
        ∃ rest, after = rest ++ [last] ∧ items = before ++ item :: rest := by
  constructor
  · intro h
    rcases List.eq_nil_or_concat after with rfl | ⟨rest, final, rfl⟩
    · obtain ⟨hitems, hlast⟩ := List.append_inj' h rfl
      exact .inl ⟨rfl, hitems, List.singleton_inj.mp hlast⟩
    · rw [List.concat_eq_append, ← List.cons_append, ← List.append_assoc] at h
      obtain ⟨hitems, hlast⟩ := List.append_inj' h rfl
      obtain rfl := List.singleton_inj.mp hlast
      exact .inr ⟨rest, List.concat_eq_append, hitems⟩
  · rintro (⟨rfl, rfl, rfl⟩ | ⟨rest, rfl, rfl⟩)
    · rfl
    · rw [List.append_assoc, List.cons_append]

/-- The last item that decides is the item at the end, or that does not decide. -/
theorem exists_last_concat_iff {P Q : α → Prop} {items : List α} {last : α} :
    (∃ before item after, items ++ [last] = before ++ item :: after ∧ P item ∧
        ∀ later ∈ after, ¬ Q later) ↔
      P last ∨ ¬ Q last ∧ ∃ before item after, items = before ++ item :: after ∧ P item ∧
        ∀ later ∈ after, ¬ Q later := by
  constructor
  · rintro ⟨before, item, after, h, hitem, hafter⟩
    rcases concat_eq_append_cons_iff.mp h with ⟨-, -, rfl⟩ | ⟨rest, rfl, rfl⟩
    · exact .inl hitem
    · obtain ⟨hrest, hlast⟩ := List.forall_mem_append.mp hafter
      exact .inr ⟨hlast last List.mem_cons_self, before, item, rest, rfl, hitem, hrest⟩
  · rintro (hlast | ⟨hlast, before, item, rest, rfl, hitem, hrest⟩)
    · exact ⟨items, last, [], rfl, hlast, by simp⟩
    · refine ⟨before, item, rest ++ [last], by simp, hitem, ?_⟩
      exact List.forall_mem_append.mpr ⟨hrest, List.forall_mem_singleton.mpr hlast⟩

/-- The item that decides may be given by name. -/
theorem exists_last_eq_iff {Q : α → Prop} {items : List α} {wanted : α} :
    (∃ before item after, items = before ++ item :: after ∧ item = wanted ∧
        ∀ later ∈ after, ¬ Q later) ↔
      ∃ before after, items = before ++ wanted :: after ∧ ∀ later ∈ after, ¬ Q later := by
  constructor
  · rintro ⟨before, _, after, h, rfl, hafter⟩
    exact ⟨before, after, h, hafter⟩
  · rintro ⟨before, after, h, hafter⟩
    exact ⟨before, wanted, after, h, rfl, hafter⟩

namespace NameMap

/-! ### Maps made of pairs -/

theorem ofList_concat (pairs : List (String × α)) (name : String) (value : α) :
    ofList (pairs ++ [(name, value)]) = (ofList pairs).insert name value := by
  rw [ofList, List.foldl_append]
  rfl

/-- A name has the value of its last pair. -/
theorem get?_ofList_eq_some_iff {pairs : List (String × α)} {name : String} {value : α} :
    (ofList pairs).get? name = some value ↔
      ∃ before after, pairs = before ++ (name, value) :: after ∧
        ∀ pair ∈ after, pair.1 ≠ name := by
  rw [← exists_last_eq_iff]
  induction pairs using List.reverseRecOn with
  | nil => simp [ofList]
  | append_singleton pairs last ih =>
    obtain ⟨key, written⟩ := last
    rw [ofList_concat, get?_insert, exists_last_concat_iff, ← ih]
    by_cases hname : name = key
    · simp [hname]
    · simp [hname, Ne.symm hname]

/-- Without repeated names the pairs are what is looked up. -/
theorem get?_ofList_of_nodup {pairs : List (String × α)} (h : (pairs.map (·.1)).Nodup)
    {name : String} {value : α} :
    (ofList pairs).get? name = some value ↔ (name, value) ∈ pairs := by
  rw [get?_ofList_eq_some_iff]
  constructor
  · rintro ⟨before, after, rfl, -⟩
    exact List.mem_append_right before List.mem_cons_self
  · intro hmem
    obtain ⟨before, after, rfl⟩ := List.append_of_mem hmem
    refine ⟨before, after, rfl, ?_⟩
    intro pair hpair heq
    rw [List.map_append, List.map_cons] at h
    have hnot := (List.nodup_cons.mp (List.nodup_append.mp h).2.1).1
    exact hnot (List.mem_map.mpr ⟨pair, hpair, heq⟩)

/-- Writing the value that is there changes nothing. -/
theorem insert_eq_self {m : NameMap α} {name : String} {value : α} (h : m.get? name = some value) :
    m.insert name value = m := by
  apply ext_get?
  intro other
  rw [get?_insert]
  by_cases hother : other = name
  · rw [if_pos hother, hother, h]
  · rw [if_neg hother]

/-- A map is made of changed values as it is made of the values. -/
theorem ofList_map {β : Type v} (f : α → β) (pairs : List (String × α)) :
    ofList (pairs.map fun pair => (pair.1, f pair.2)) = (ofList pairs).map f := by
  apply ext_get?
  intro name
  rw [get?_map]
  induction pairs using List.reverseRecOn with
  | nil => rfl
  | append_singleton pairs last ih =>
    obtain ⟨key, written⟩ := last
    rw [List.map_append, List.map_singleton, ofList_concat, ofList_concat, get?_insert,
      get?_insert, ih]
    split <;> rfl

/-! ### Names -/

/-- Writing a new name makes the list one entry longer, writing one that is there does not. -/
theorem length_insertEntry (name : String) (value : α) {entries : List (String × α)}
    (h : entries.Pairwise (·.1 < ·.1)) :
    (insertEntry name value entries).length =
      entries.length + if (entries.lookup name).isSome then 0 else 1 := by
  induction entries with
  | nil => rfl
  | cons first rest ih =>
    rw [insertEntry]
    split
    · next hlt => simp [lookup_eq_none_of_ne (ne_of_lt_first h hlt)]
    · rw [lookup_cons_entry]
      split
      · rfl
      · rw [List.length_cons, ih (List.pairwise_cons.mp h).2, List.length_cons]
        exact Nat.add_right_comm ..

/-- A new name is one more; a name that is there stays one. -/
theorem size_insert (m : NameMap α) (name : String) (value : α) :
    (m.insert name value).size = m.size + if m.contains name then 0 else 1 :=
  length_insertEntry name value m.increasing

end NameMap

end FacetedSearch
