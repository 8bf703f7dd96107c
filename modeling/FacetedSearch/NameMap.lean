import FacetedSearch.Increasing

/-!
# Name maps

A finite map from names to values, kept as its list of entries in strictly
increasing order of the names, which is the order of their UTF-8 bytes. The
order is part of the type, so a map has one representation: two maps with the
same values at every name are equal.
-/

namespace FacetedSearch

universe u v

/-- A finite map from names to values, its entries in strictly increasing order of the names. -/
structure NameMap (α : Type u) where
  /-- Every name once, with its value. -/
  entries : List (String × α)
  /-- Each name is less than every name after it. -/
  increasing : entries.Pairwise (·.1 < ·.1)

namespace NameMap

variable {α : Type u} {β : Type v}

/-- Of two different names one is less. -/
theorem lt_of_not_lt_of_ne {a b : String} (hlt : ¬ a < b) (hne : a ≠ b) : b < a :=
  String.not_le.1 fun hle => hne (String.le_antisymm hle (String.not_lt.1 hlt))

/-- Write a value into an increasing list of entries, at the place of its name. -/
def insertEntry (name : String) (value : α) : List (String × α) → List (String × α)
  | [] => [(name, value)]
  | entry :: rest =>
    if name < entry.1 then (name, value) :: entry :: rest
    else if name = entry.1 then (name, value) :: rest
    else entry :: insertEntry name value rest

/-- An entry of the written list is the new one or an old one. -/
theorem mem_insertEntry {name : String} {value : α} {entry : String × α}
    {entries : List (String × α)} (h : entry ∈ insertEntry name value entries) :
    entry = (name, value) ∨ entry ∈ entries := by
  induction entries with
  | nil => simpa [insertEntry] using h
  | cons first rest ih =>
    rw [insertEntry] at h
    split at h
    · simpa using h
    · split at h
      · simp only [List.mem_cons] at h ⊢
        exact h.imp id Or.inr
      · simp only [List.mem_cons] at h ⊢
        rcases h with rfl | h
        · exact Or.inr (Or.inl rfl)
        · exact (ih h).imp id Or.inr

/-- Writing an entry keeps the list increasing. -/
theorem pairwise_insertEntry (name : String) (value : α) {entries : List (String × α)}
    (h : entries.Pairwise (·.1 < ·.1)) : (insertEntry name value entries).Pairwise (·.1 < ·.1) := by
  induction entries with
  | nil => simp [insertEntry]
  | cons first rest ih =>
    have ⟨hfirst, hrest⟩ := List.pairwise_cons.1 h
    rw [insertEntry]
    split
    · next hlt =>
      refine List.pairwise_cons.2 ⟨fun entry hentry => ?_, h⟩
      rcases List.mem_cons.1 hentry with rfl | hmem
      · exact hlt
      · exact String.lt_trans hlt (hfirst entry hmem)
    · split
      · next heq =>
        subst heq
        exact List.pairwise_cons.2 ⟨hfirst, hrest⟩
      · next hlt hne =>
        refine List.pairwise_cons.2 ⟨fun entry hentry => ?_, ih hrest⟩
        rcases mem_insertEntry hentry with rfl | hmem
        · exact lt_of_not_lt_of_ne hlt hne
        · exact hfirst entry hmem

/-- The map without entries. -/
def empty : NameMap α := ⟨[], .nil⟩

instance : Inhabited (NameMap α) := ⟨empty⟩

/-- The value at a name. -/
def get? (m : NameMap α) (name : String) : Option α := m.entries.lookup name

/-- Set the value at a name; an earlier value of the name is lost. -/
def insert (m : NameMap α) (name : String) (value : α) : NameMap α :=
  ⟨insertEntry name value m.entries, pairwise_insertEntry name value m.increasing⟩

/-- Set the value at a name, if there is a value to set. -/
def insertSome (m : NameMap α) (name : String) : Option α → NameMap α
  | some value => m.insert name value
  | none => m

/-- Take a name out. -/
def erase (m : NameMap α) (name : String) : NameMap α :=
  ⟨m.entries.filter (·.1 ≠ name), m.increasing.filter _⟩

/-- Write the pairs one after the other into an empty map, so the last value of a name stays. -/
def ofList (pairs : List (String × α)) : NameMap α :=
  pairs.foldl (fun m pair => m.insert pair.1 pair.2) empty

/-- The names in increasing order. -/
def names (m : NameMap α) : List String := m.entries.map (·.1)

/-- The number of names. -/
def size (m : NameMap α) : Nat := m.entries.length

/-- Whether there is no name. -/
def isEmpty (m : NameMap α) : Bool := m.entries.isEmpty

/-- Whether a name has a value. -/
def contains (m : NameMap α) (name : String) : Bool := (m.get? name).isSome

/-- Change every value and keep the names. -/
def map (f : α → β) (m : NameMap α) : NameMap β :=
  ⟨m.entries.map fun entry => (entry.1, f entry.2), m.increasing.map _ fun _ _ h => h⟩

/-! ### Lookup after each operation -/

@[simp] theorem get?_empty (name : String) : (empty : NameMap α).get? name = none := rfl

/-- Lookup tries the first entry and then the others. -/
theorem lookup_cons_entry (name first : String) (value : α) (rest : List (String × α)) :
    ((first, value) :: rest).lookup name =
      if name = first then some value else rest.lookup name := by
  by_cases h : name = first
  · simp [h]
  · simp [List.lookup_cons, h, beq_false_of_ne h]

/-- Lookup in a list of entries after an entry was written. -/
theorem lookup_insertEntry (name other : String) (value : α) (entries : List (String × α)) :
    (insertEntry name value entries).lookup other =
      if other = name then some value else entries.lookup other := by
  induction entries with
  | nil => simp [insertEntry, lookup_cons_entry]
  | cons first rest ih =>
    obtain ⟨key, old⟩ := first
    rw [insertEntry]
    split
    · exact lookup_cons_entry ..
    · split
      · next heq =>
        obtain rfl : name = key := heq
        simp only [lookup_cons_entry]
        split <;> rfl
      · next hne =>
        simp only [lookup_cons_entry, ih]
        by_cases h : other = name
        · subst h
          simp [show other ≠ key from hne]
        · simp [h]

/-- A written name has the written value; every other name keeps its value. -/
theorem get?_insert (m : NameMap α) (name other : String) (value : α) :
    (m.insert name value).get? other = if other = name then some value else m.get? other :=
  lookup_insertEntry name other value m.entries

@[simp] theorem get?_insert_self (m : NameMap α) (name : String) (value : α) :
    (m.insert name value).get? name = some value := by simp [get?_insert]

/-- A name that is set has the value that is there for it, or else the one it had. -/
theorem get?_insertSome (m : NameMap α) (name other : String) (value : Option α) :
    (m.insertSome name value).get? other =
      if other = name then value.or (m.get? other) else m.get? other := by
  cases value with
  | none =>
    rw [Option.none_or, ite_self]
    rfl
  | some value => exact get?_insert m name other value

/-- Lookup in a list of entries without those of a name. -/
theorem lookup_filter_ne (name other : String) (entries : List (String × α)) :
    (entries.filter (·.1 ≠ name)).lookup other =
      if other = name then none else entries.lookup other := by
  induction entries with
  | nil => simp
  | cons first rest ih =>
    obtain ⟨key, old⟩ := first
    by_cases hkey : key = name
    · subst hkey
      simp only [ne_eq, not_true_eq_false, decide_false, Bool.false_eq_true, not_false_eq_true,
        List.filter_cons_of_neg, ih, lookup_cons_entry]
      split <;> rfl
    · rw [List.filter_cons_of_pos (by simpa using hkey), lookup_cons_entry, lookup_cons_entry, ih]
      by_cases hother : other = key
      · simp [hother, hkey]
      · simp [hother]

/-- An erased name has no value; every other name keeps its value. -/
theorem get?_erase (m : NameMap α) (name other : String) :
    (m.erase name).get? other = if other = name then none else m.get? other :=
  lookup_filter_ne name other m.entries

/-- Changing the values changes what is looked up. -/
theorem get?_map (f : α → β) (m : NameMap α) (name : String) :
    (m.map f).get? name = (m.get? name).map f := by
  simp only [get?, map]
  induction m.entries with
  | nil => rfl
  | cons first rest ih =>
    obtain ⟨key, old⟩ := first
    rw [List.map_cons, lookup_cons_entry, lookup_cons_entry, ih]
    split <;> rfl

/-- Write a value into an increasing list of entries, and give the value that it displaces. -/
def exchangeEntry (name : String) (value : α) : List (String × α) → Option α × List (String × α)
  | [] => (none, [(name, value)])
  | entry :: rest =>
    if name < entry.1 then (none, (name, value) :: entry :: rest)
    else if name = entry.1 then (some entry.2, (name, value) :: rest)
    else
      let (displaced, written) := exchangeEntry name value rest
      (displaced, entry :: written)

/-- Take a name out of an increasing list of entries, and give its value. -/
def takeEntry (name : String) : List (String × α) → Option α × List (String × α)
  | [] => (none, [])
  | entry :: rest =>
    if name < entry.1 then (none, entry :: rest)
    else if name = entry.1 then (some entry.2, rest)
    else
      let (taken, left) := takeEntry name rest
      (taken, entry :: left)

/-- A name that is less than the first one is not among the entries. -/
theorem ne_of_lt_first {name : String} {first : String × α} {rest : List (String × α)}
    (h : (first :: rest).Pairwise (·.1 < ·.1)) (hlt : name < first.1) :
    ∀ entry ∈ first :: rest, entry.1 ≠ name := by
  rintro entry hentry rfl
  rcases List.mem_cons.1 hentry with rfl | hmem
  · exact String.lt_irrefl _ hlt
  · exact String.lt_irrefl _ (String.lt_trans hlt ((List.pairwise_cons.1 h).1 entry hmem))

/-- A name that no entry has is not found. -/
theorem lookup_eq_none_of_ne {name : String} {entries : List (String × α)}
    (h : ∀ entry ∈ entries, entry.1 ≠ name) : entries.lookup name = none := by
  induction entries with
  | nil => rfl
  | cons first rest ih =>
    have ⟨hfirst, hrest⟩ := List.forall_mem_cons.1 h
    rw [lookup_cons_entry, if_neg hfirst.symm, ih hrest]

/-- The displaced value is what lookup found before. -/
theorem exchangeEntry_eq (name : String) (value : α) {entries : List (String × α)}
    (h : entries.Pairwise (·.1 < ·.1)) :
    exchangeEntry name value entries = (entries.lookup name, insertEntry name value entries) := by
  induction entries with
  | nil => rfl
  | cons first rest ih =>
    rw [exchangeEntry, insertEntry]
    split
    · next hlt => rw [lookup_eq_none_of_ne (ne_of_lt_first h hlt)]
    · rw [lookup_cons_entry]
      split
      · rfl
      · rw [ih (List.pairwise_cons.1 h).2]

/-- The value that is taken is what lookup found before, and no other entry goes. -/
theorem takeEntry_eq (name : String) {entries : List (String × α)}
    (h : entries.Pairwise (·.1 < ·.1)) :
    takeEntry name entries = (entries.lookup name, entries.filter (·.1 ≠ name)) := by
  induction entries with
  | nil => rfl
  | cons first rest ih =>
    have ⟨hfirst, hrest⟩ := List.pairwise_cons.1 h
    rw [takeEntry]
    split
    · next hlt =>
      have hne := ne_of_lt_first h hlt
      rw [lookup_eq_none_of_ne hne, List.filter_eq_self.2 fun entry hentry => by
        simpa using hne entry hentry]
    · rw [lookup_cons_entry]
      split
      · next heq =>
        -- The rest is kept as a whole, since every later name is greater.
        rw [List.filter_cons_of_neg (by simp [heq]), List.filter_eq_self.2 fun entry hentry => by
          have hlt := hfirst entry hentry
          simpa [heq] using (String.ne_of_lt hlt).symm]
      · next hne =>
        rw [ih hrest, List.filter_cons_of_pos (by simpa using Ne.symm hne)]

/-- Set the value at a name, and give the value that it displaces. -/
def exchange (m : NameMap α) (name : String) (value : α) : Option α × NameMap α :=
  ((exchangeEntry name value m.entries).1,
    ⟨(exchangeEntry name value m.entries).2, by
      rw [exchangeEntry_eq name value m.increasing]
      exact pairwise_insertEntry name value m.increasing⟩)

/-- Take a name out, and give its value. -/
def remove (m : NameMap α) (name : String) : Option α × NameMap α :=
  ((takeEntry name m.entries).1,
    ⟨(takeEntry name m.entries).2, by
      rw [takeEntry_eq name m.increasing]
      exact m.increasing.filter _⟩)

theorem exchange_eq (m : NameMap α) (name : String) (value : α) :
    m.exchange name value = (m.get? name, m.insert name value) := by
  simp only [exchange, exchangeEntry_eq name value m.increasing]
  rfl

theorem remove_eq (m : NameMap α) (name : String) :
    m.remove name = (m.get? name, m.erase name) := by
  simp only [remove, takeEntry_eq name m.increasing]
  rfl

/-! ### Entries and lookup determine each other -/

/-- The entries are what lookup finds. -/
theorem mem_entries_iff (m : NameMap α) (name : String) (value : α) :
    (name, value) ∈ m.entries ↔ m.get? name = some value := by
  obtain ⟨entries, increasing⟩ := m
  simp only [get?]
  induction entries with
  | nil => simp
  | cons first rest ih =>
    obtain ⟨key, old⟩ := first
    have ⟨hfirst, hrest⟩ := List.pairwise_cons.1 increasing
    rw [List.mem_cons, ih hrest, lookup_cons_entry]
    by_cases h : name = key
    · subst h
      have hnot : rest.lookup name ≠ some value := fun hmem =>
        String.lt_irrefl _ (hfirst (name, value) ((ih hrest).2 hmem))
      simp [hnot, eq_comm]
    · simp [h]

/-- Maps that agree at every name are equal. -/
theorem ext_get? {a b : NameMap α} (h : ∀ name, a.get? name = b.get? name) : a = b := by
  obtain ⟨xs, hx⟩ := a
  obtain ⟨ys, hy⟩ := b
  have heq : xs = ys := eq_of_mem_iff_of_pairwise (r := fun x y : String × α => x.1 < y.1)
      (fun entry => String.lt_irrefl entry.1) (fun _ _ _ => String.lt_trans) hx hy fun entry => by
    have := mem_entries_iff ⟨xs, hx⟩ entry.1 entry.2
    have := mem_entries_iff ⟨ys, hy⟩ entry.1 entry.2
    have := h entry.1
    simp_all
  subst heq
  rfl

/-- Increasing entries with the same value at every name are those of the map. -/
theorem entries_eq_of_lookup {m : NameMap α} {entries : List (String × α)}
    (increasing : entries.Pairwise (·.1 < ·.1))
    (h : ∀ name, m.get? name = entries.lookup name) : m.entries = entries := by
  have hmap : m = ⟨entries, increasing⟩ := ext_get? h
  rw [hmap]

end NameMap

end FacetedSearch
