import FacetedSearch.Proofs.Compile.Requests
import FacetedSearch.Proofs.Text.ByteOrder

/-!
# Runs of steps on an option set

After any run of steps a name has the value that was written last for it, unless a later step
took it out or replaced the whole set. What a run leaves behind is a matter of names and values
only, so runs that end with the same value at every name compile alike.
-/

namespace FacetedSearch

namespace OptionSet

/-- A step writes a value for a name; of several values for the name the last one counts. -/
inductive Step.Writes (name : String) (value : Supplied) : Step → Prop where
  | insert : Writes name value (.insert name value)
  | chain : Writes name value (.chain name value)
  | ofPairs {before after : List (String × Supplied)} (last : ∀ pair ∈ after, pair.1 ≠ name) :
      Writes name value (.ofPairs (before ++ (name, value) :: after))
  | ofJson {before after : List (String × Json)} {member : Json}
      (last : ∀ pair ∈ after, pair.1 ≠ name) (hvalue : Supplied.ofJson member = value) :
      Writes name value (.ofJson (.object (before ++ (name, member) :: after)))

/-- A step settles what a name has after it: it writes or removes the name, or replaces the set. -/
inductive Step.Settles (name : String) : Step → Prop where
  | insert {value : Supplied} : Settles name (.insert name value)
  | chain {value : Supplied} : Settles name (.chain name value)
  | remove : Settles name (.remove name)
  | ofPairs {pairs : List (String × Supplied)} : Settles name (.ofPairs pairs)
  | ofJson {members : List (String × Json)} : Settles name (.ofJson (.object members))

/-! ### One step -/

section Step

variable (options : OptionSet) (name : String) (value : Supplied)

theorem apply_insert : (Step.insert name value).apply options =
    (.ok (options.get? name), options.insert name value) := by
  rw [Step.apply, NameMap.exchange_eq]

theorem apply_chain : (Step.chain name value).apply options =
    (.ok none, options.insert name value) := by
  rw [Step.apply, NameMap.exchange_eq]

theorem apply_remove : (Step.remove name).apply options =
    (.ok (options.get? name), options.erase name) := by
  rw [Step.apply, NameMap.remove_eq]

theorem apply_ofPairs (pairs : List (String × Supplied)) :
    (Step.ofPairs pairs).apply options = (.ok none, NameMap.ofList pairs) := rfl

end Step

variable {options : OptionSet} {step : Step} {name : String} {value : Supplied}

/-- The members of an object are pairs whose values are supplied. -/
theorem get?_ofJson_object {members : List (String × Json)} :
    ((Step.ofJson (.object members)).apply options).2.get? name = some value ↔
      (Step.ofJson (.object members)).Writes name value := by
  rw [Step.apply, ofJson, NameMap.get?_ofList_eq_some_iff]
  constructor
  · rintro ⟨before, after, hmembers, hafter⟩
    obtain ⟨start, rest, rfl, -, hrest⟩ := List.map_eq_append_iff.mp hmembers
    obtain ⟨⟨key, member⟩, left, rfl, hpair, rfl⟩ := List.map_eq_cons_iff.mp hrest
    obtain ⟨rfl, hvalue⟩ := Prod.mk.inj hpair
    exact .ofJson (fun pair hpair => hafter _ (List.mem_map_of_mem hpair)) hvalue
  · rintro (_ | _ | _ | ⟨hafter, rfl⟩)
    exact ⟨_, _, List.map_append .., List.forall_mem_map.mpr hafter⟩

/-- A step that settles a name leaves it with what the step writes for it. -/
theorem get?_apply_of_settles (h : step.Settles name) :
    (step.apply options).2.get? name = some value ↔ step.Writes name value := by
  cases h with
  | insert =>
    rw [apply_insert, NameMap.get?_insert_self]
    constructor
    · intro hvalue
      obtain rfl := Option.some.inj hvalue
      exact .insert
    · rintro ⟨⟩
      rfl
  | chain =>
    rw [apply_chain, NameMap.get?_insert_self]
    constructor
    · intro hvalue
      obtain rfl := Option.some.inj hvalue
      exact .chain
    · rintro ⟨⟩
      rfl
  | remove =>
    rw [apply_remove, NameMap.get?_erase, if_pos rfl]
    exact ⟨nofun, nofun⟩
  | ofPairs =>
    rw [apply_ofPairs, NameMap.get?_ofList_eq_some_iff]
    constructor
    · rintro ⟨before, after, rfl, hafter⟩
      exact .ofPairs hafter
    · rintro (_ | _ | hafter)
      exact ⟨_, _, rfl, hafter⟩
  | ofJson => exact get?_ofJson_object

/-- Any other step leaves the value of a name as it was. -/
theorem get?_apply_of_not_settles (h : ¬ step.Settles name) :
    (step.apply options).2.get? name = options.get? name := by
  cases step with
  | insert other value =>
    have hne : name ≠ other := fun heq => h (heq ▸ .insert)
    rw [apply_insert, NameMap.get?_insert, if_neg hne]
  | chain other value =>
    have hne : name ≠ other := fun heq => h (heq ▸ .chain)
    rw [apply_chain, NameMap.get?_insert, if_neg hne]
  | remove other =>
    have hne : name ≠ other := fun heq => h (heq ▸ .remove)
    rw [apply_remove, NameMap.get?_erase, if_neg hne]
  | ofPairs pairs => exact absurd .ofPairs h
  | ofJson payload =>
    cases payload with
    | object members => exact absurd .ofJson h
    | null => rfl
    | bool truth => rfl
    | number n => rfl
    | string text => rfl
    | array items => rfl

/-- What a step writes it settles. -/
theorem Step.Writes.settles (h : step.Writes name value) : step.Settles name := by
  cases h with
  | insert => exact .insert
  | chain => exact .chain
  | ofPairs => exact .ofPairs
  | ofJson => exact .ofJson

/-- A step that is refused leaves the set as it was. -/
theorem apply_of_error {error : SearchError} (h : (step.apply options).1 = .error error) :
    (step.apply options).2 = options := by
  cases step with
  | ofJson payload =>
    rw [Step.apply] at h ⊢
    split at h
    · exact nomatch h
    · rfl
  | insert other value => exact nomatch h
  | chain other value => exact nomatch h
  | remove other => exact nomatch h
  | ofPairs pairs => exact nomatch h

/-! ### Runs -/

theorem run_concat (steps : List Step) (step : Step) :
    run (steps ++ [step]) = (step.apply (run steps)).2 := by
  rw [run, List.foldl_append]
  rfl

/-- After a run a name has what the last step that settles it wrote. -/
theorem get?_run_eq_some_iff {steps : List Step} :
    (run steps).get? name = some value ↔
      ∃ before step after, steps = before ++ step :: after ∧ step.Writes name value ∧
        ∀ later ∈ after, ¬ later.Settles name := by
  induction steps using List.reverseRecOn with
  | nil => simp [run]
  | append_singleton steps last ih =>
    rw [run_concat, exists_last_concat_iff, ← ih]
    by_cases hsettles : last.Settles name
    · rw [get?_apply_of_settles hsettles]
      simp [hsettles]
    · rw [get?_apply_of_not_settles hsettles]
      have hnot : ¬ last.Writes name value := fun hwrites => hsettles hwrites.settles
      simp [hsettles, hnot]

/-! ### Listing -/

/-- The names are listed in the order of their bytes, so each of them once. -/
theorem entries_pairwise_utf8 (options : OptionSet) :
    options.entries.Pairwise fun first later => Text.utf8 first.1 < Text.utf8 later.1 :=
  options.increasing.imp fun hless => Text.utf8_lt_utf8_iff.mpr hless

end OptionSet

open OptionSet in
/--
An option set keeps, for each name, the last value that a run wrote for it since the name was
removed or the set replaced, explicit nulls included. Inserting and removing answer the value from
before, and no step but a replacement touches another name. The listing has the present names
in strictly increasing order of their bytes, each with its value, and its length is the size. Runs
that end with the same value at every name compile to the same result.
-/
theorem option_sets_keep_last_writes :
    (∀ (steps : List Step) (name : String) (value : Supplied),
      (run steps).get? name = some value ↔
        ∃ before step after, steps = before ++ step :: after ∧ step.Writes name value ∧
          ∀ later ∈ after, ¬ later.Settles name) ∧
    (∀ (options : OptionSet) (name : String) (value : Supplied),
      ((Step.insert name value).apply options).1 = .ok (options.get? name) ∧
      ((Step.remove name).apply options).1 = .ok (options.get? name)) ∧
    (∀ (options : OptionSet) (step : Step) (name : String), ¬ step.Settles name →
      (step.apply options).2.get? name = options.get? name) ∧
    (∀ options : OptionSet,
      options.entries.Pairwise (fun first later => Text.utf8 first.1 < Text.utf8 later.1) ∧
      (∀ name value, (name, value) ∈ options.entries ↔ options.get? name = some value) ∧
      options.size = options.entries.length) ∧
    (∀ (options : OptionSet) (name : String),
      ((Step.insert name .null).apply options).2.get? name = some .null ∧
      ((Step.insert name .null).apply options).2.size =
        options.size + if options.contains name then 0 else 1) ∧
    ∀ steps steps' : List Step, (∀ name, (run steps).get? name = (run steps').get? name) →
      ∀ (configuration : Configuration) (collection : Collection),
        compile configuration collection (run steps) =
          compile configuration collection (run steps') := by
  refine ⟨fun steps name value => get?_run_eq_some_iff, ?_, ?_, ?_, ?_, ?_⟩
  · intro options name value
    rw [apply_insert, apply_remove]
    exact ⟨rfl, rfl⟩
  · intro options step name hsettles
    exact get?_apply_of_not_settles hsettles
  · intro options
    exact ⟨entries_pairwise_utf8 options, NameMap.mem_entries_iff options, rfl⟩
  · intro options name
    rw [apply_insert]
    exact ⟨NameMap.get?_insert_self options name .null, NameMap.size_insert options name .null⟩
  · intro steps steps' hsame configuration collection
    rw [NameMap.ext_get? hsame]

open OptionSet in
/-- A limit that is set, removed and set again is the same request as its last value from a list. -/
theorem changed_limit_compiles_as_listed :
    ∃ request,
      compile {} .messages (run [.insert "limit" (.int 3), .chain "sort" .null, .remove "limit",
        .insert "limit" (.int 5)]) = .ok request ∧
      compile {} .messages (run [.ofPairs [("limit", .int 5), ("sort", .null)]]) =
        .ok request := by
  obtain ⟨request, hrequest⟩ : ∃ request, compile {} .messages
      (NameMap.ofList [("limit", .int 5), ("sort", .null)]) = .ok request := by
    apply exists_request_ofList
    rw [List.forall_mem_cons, List.forall_mem_singleton]
    exact ⟨⟨.count, by decide +kernel, .count (by decide)⟩, .document, by decide +kernel, .null _⟩
  have hsame (name : String) :
      (run [.insert "limit" (.int 3), .chain "sort" .null, .remove "limit",
        .insert "limit" (.int 5)]).get? name =
      (run [.ofPairs [("limit", .int 5), ("sort", .null)]]).get? name := by
    simp only [run, List.foldl_cons, List.foldl_nil, apply_insert, apply_chain, apply_remove,
      apply_ofPairs, NameMap.ofList, NameMap.get?_insert, NameMap.get?_erase, NameMap.get?_empty]
    by_cases hlimit : name = "limit"
    · simp [hlimit]
    · simp [hlimit]
  obtain ⟨-, -, -, -, -, hcompile⟩ := option_sets_keep_last_writes
  exact ⟨request, (hcompile _ _ hsame {} .messages).trans hrequest, hrequest⟩

end FacetedSearch
