import FacetedSearch.Proofs.Facet.Selection
import FacetedSearch.Proofs.Query.Cancellation

/-!
# Identifiers seen in contributions

A facet that reads an option for identifiers writes every member of its set into clauses, in
increasing order and nowhere twice. Contributions that are the same were therefore made
from the same set, whether it asks for one of its members, stands among alternatives or
excludes each of them.
-/

namespace FacetedSearch

namespace Identifier

/-- Different identifiers are different in JSON; in particular a number is no text. -/
theorem eq_of_same_toJson {a b : Identifier} (h : a.toJson.same b.toJson = true) : a = b := by
  cases a with
  | number m =>
    cases b with
    | number n =>
      have hvalue : m.toInt = n.toInt := by
        simpa [toJson, Json.ofInt64, Number.ofInt64, Json.same, Number.same] using h
      rw [Int64.toInt_inj.mp hvalue]
    | text t => simp [toJson, Json.ofInt64, Json.same] at h
  | text s =>
    cases b with
    | number n => simp [toJson, Json.ofInt64, Json.same] at h
    | text t =>
      have hvalue : s = t := by simpa [toJson, Json.same] using h
      rw [hvalue]

/-- Lists of identifiers that are the same in JSON are equal. -/
theorem eq_of_sameItems_toJson {ids ids' : List Identifier}
    (h : Json.sameItems (ids.map toJson) (ids'.map toJson) = true) : ids = ids' := by
  induction ids generalizing ids' with
  | nil =>
    cases ids' with
    | nil => rfl
    | cons id' rest' => simp [Json.sameItems] at h
  | cons id rest ih =>
    cases ids' with
    | nil => simp [Json.sameItems] at h
    | cons id' rest' =>
      rw [List.map_cons, List.map_cons, Json.sameItems, Bool.and_eq_true] at h
      rw [eq_of_same_toJson h.1, ih h.2]

/-- Lists of identifiers that are excluded by the same clauses are equal. -/
theorem eq_of_sameAll_exclusions {field : String} {ids ids' : List Identifier}
    (h : Clause.sameAll (ids.map fun id => .term field id.toJson)
      (ids'.map fun id => .term field id.toJson) = true) : ids = ids' := by
  induction ids generalizing ids' with
  | nil =>
    cases ids' with
    | nil => rfl
    | cons id' rest' => simp [Clause.sameAll] at h
  | cons id rest ih =>
    cases ids' with
    | nil => simp [Clause.sameAll] at h
    | cons id' rest' =>
      rw [List.map_cons, List.map_cons, Clause.sameAll, Bool.and_eq_true, Clause.same,
        Bool.and_eq_true] at h
      rw [eq_of_same_toJson h.1.2, ih h.2]

end Identifier

/-- Sets with the same list of members are equal. -/
theorem IdentifierSet.ext_members {ids ids' : IdentifierSet} (h : ids.members = ids'.members) :
    ids = ids' := by
  apply ext_mem
  intro id
  rw [h]

/-- The clause of an option tells its set of identifiers, and so does the lack of one. -/
theorem IdentifierOption.ids_eq_of_sameAll {source : IdentifierOption} {a b : Settings}
    (h : Clause.sameAll (source.clause? a).toList (source.clause? b).toList = true) :
    a.ids source.option = b.ids source.option := by
  apply IdentifierSet.ext_members
  simp only [clause?] at h
  split at h
  · next hempty =>
    split at h
    · next hempty' => exact (List.isEmpty_iff.mp hempty).trans (List.isEmpty_iff.mp hempty').symm
    · simp [Clause.sameAll] at h
  · split at h
    · simp [Clause.sameAll] at h
    · rw [Option.toList_some, Option.toList_some, Clause.sameAll, Bool.and_eq_true, Clause.same,
        Bool.and_eq_true] at h
      exact Identifier.eq_of_sameItems_toJson h.1.2

namespace Facet

variable {facet : Facet} {a b : Settings} {name : String} {configuration : Configuration}

/-- The clauses of several options, split at one of them. -/
theorem filterMap_clause?_split (before after : List IdentifierOption) (source : IdentifierOption)
    (settings : Settings) :
    (before ++ source :: after).filterMap (·.clause? settings) =
      before.filterMap (·.clause? settings) ++ (source.clause? settings).toList ++
        after.filterMap (·.clause? settings) := by
  simp only [List.filterMap_eq_flatMap_toList, List.flatMap_append, List.flatMap_cons,
    List.append_assoc]

/-- Alternatives that are the same tell the set of each option, if all others agree. -/
theorem ids_eq_of_sameAll_alternatives {sources : List IdentifierOption}
    (hnodup : (sources.map (·.option)).Nodup) {source : IdentifierOption}
    (hsource : source ∈ sources)
    (hagree : ∀ other, other ≠ source.option → a.get? other = b.get? other)
    (h : Clause.sameAll (sources.filterMap (·.clause? a)) (sources.filterMap (·.clause? b)) =
      true) : a.ids source.option = b.ids source.option := by
  obtain ⟨before, after, rfl⟩ := List.append_of_mem hsource
  rw [List.map_append, List.map_cons] at hnodup
  obtain ⟨-, hlater, hbefore⟩ := List.nodup_append.mp hnodup
  have hafter := (List.nodup_cons.mp hlater).1
  have hothers (others : List IdentifierOption)
      (hne : ∀ other ∈ others, other.option ≠ source.option) :
      others.filterMap (·.clause? b) = others.filterMap (·.clause? a) := by
    apply List.filterMap_congr
    intro other hother
    exact (IdentifierOption.clause?_congr (hagree other.option (hne other hother))).symm
  have hbeforeEq := hothers before fun other hother =>
    hbefore other.option (List.mem_map_of_mem hother) source.option List.mem_cons_self
  have hafterEq := hothers after fun other hother heq =>
    hafter (heq ▸ List.mem_map_of_mem hother)
  rw [filterMap_clause?_split, filterMap_clause?_split, hbeforeEq, hafterEq] at h
  exact IdentifierOption.ids_eq_of_sameAll (Clause.sameAll_of_append_append h)

/-- Contributions that are the same were made from the same set of identifiers. -/
theorem ids_eq_of_contribution {shape : Shape} (hids : shape = .reference ∨ shape = .references)
    (hname : ⟨name, shape⟩ ∈ facet.declarations) (hnodup : facet.options.Nodup)
    (hagree : ∀ other, other ≠ name → a.get? other = b.get? other)
    (h : ∀ occurrence, Clause.sameAll ((facet.contribution a configuration).clauses occurrence)
      ((facet.contribution b configuration).clauses occurrence) = true) :
    a.ids name = b.ids name := by
  cases facet with
  | identity source shape' =>
    obtain ⟨rfl, rfl⟩ := Declaration.mk.inj (List.mem_singleton.mp hname)
    apply IdentifierOption.ids_eq_of_sameAll
    have hfilter (settings : Settings) :
        ((identity source shape).contribution settings configuration).clauses .filter =
          (source.clause? settings).toList := by
      rw [contribution]
      cases source.clause? settings <;> rfl
    rw [← hfilter, ← hfilter]
    exact h .filter
  | anyOf sources =>
    obtain ⟨source, hsource, heq⟩ := List.mem_map.mp hname
    obtain ⟨rfl, -⟩ := Declaration.mk.inj heq
    have hsources : (sources.map (·.option)).Nodup := by
      simpa [options, declarations, Function.comp_def] using hnodup
    apply ids_eq_of_sameAll_alternatives hsources hsource hagree
    exact BooleanQuery.sameAll_of_ofAlternatives (h .filter)
  | exclusion source =>
    obtain ⟨rfl, -⟩ := Declaration.mk.inj (List.mem_singleton.mp hname)
    apply IdentifierSet.ext_members
    exact Identifier.eq_of_sameAll_exclusions (h .mustNot)
  | _ =>
    rcases hids with rfl | rfl <;> simp [declarations, numericBounds, dateBounds] at hname

end Facet

end FacetedSearch
