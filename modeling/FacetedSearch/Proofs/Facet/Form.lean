import FacetedSearch.Proofs.Facet.FreeText
import FacetedSearch.Proofs.Facet.Identifiers
import FacetedSearch.Proofs.Query.WellFormed
import Mathlib.Data.List.Nodup

/-!
# The form of contributions

Each contribution is well formed by itself. Groups come from alternatives only, one from each
such facet, and phrases and groups that are scored come from the search box. The values of an
identifier set are those of its members in order, so the numbers stand before the texts.
-/

namespace FacetedSearch

namespace Identifier

/-- Identifiers in increasing order are numbers in order, then texts in order. -/
theorem exists_parts_of_pairwise {ids : List Identifier} (h : ids.Pairwise Less) :
    ∃ (numbers : List Int64) (texts : List String),
      ids = numbers.map number ++ texts.map text ∧ numbers.Pairwise (· < ·) ∧
        texts.Pairwise (· < ·) := by
  induction ids with
  | nil => exact ⟨[], [], rfl, .nil, .nil⟩
  | cons id rest ih =>
    obtain ⟨hfirst, hrest⟩ := List.pairwise_cons.mp h
    obtain ⟨numbers, texts, rfl, hnumbers, htexts⟩ := ih hrest
    have hlessText (s : String) (hs : s ∈ texts) : id.Less (text s) :=
      hfirst _ (List.mem_append_right _ (List.mem_map_of_mem hs))
    have hlessNumber (n : Int64) (hn : n ∈ numbers) : id.Less (number n) :=
      hfirst _ (List.mem_append_left _ (List.mem_map_of_mem hn))
    cases id with
    | number first =>
      exact ⟨first :: numbers, texts, rfl, List.pairwise_cons.mpr ⟨hlessNumber, hnumbers⟩, htexts⟩
    | text first =>
      -- No number follows a text.
      have hnone : numbers = [] := by
        rw [List.eq_nil_iff_forall_not_mem]
        exact hlessNumber
      subst hnone
      exact ⟨[], first :: texts, rfl, .nil, List.pairwise_cons.mpr ⟨hlessText, htexts⟩⟩

theorem toJson_injective : Function.Injective toJson := by
  intro a b h
  apply eq_of_same_toJson
  rw [h, Json.same_self]

end Identifier

theorem IdentifierSet.nodup_members (ids : IdentifierSet) : ids.members.Nodup := by
  apply ids.increasing.imp
  rintro a b hless rfl
  exact Identifier.less_irrefl a hless

/-- The members of a set that is not empty are the values of identifiers in order. -/
theorem IdentifierSet.areIdentifiers {ids : IdentifierSet} (h : ids.isEmpty = false) :
    Json.AreIdentifiers (ids.members.map Identifier.toJson) := by
  constructor
  · intro hnil
    rw [isEmpty, List.map_eq_nil_iff.mp hnil] at h
    simp at h
  · exact ids.nodup_members.map Identifier.toJson_injective
  · obtain ⟨numbers, texts, hmembers, hnumbers, htexts⟩ :=
      Identifier.exists_parts_of_pairwise ids.increasing
    refine ⟨numbers, texts, ?_, hnumbers, htexts.imp Text.utf8_lt_utf8_iff.mpr⟩
    rw [hmembers, List.map_append, List.map_map, List.map_map]
    rfl

/-- The clause of an option asks for one of its identifiers. -/
theorem IdentifierOption.isTerms_of_clause? {source : IdentifierOption} {settings : Settings}
    {clause : Clause} (h : source.clause? settings = some clause) : clause.IsTerms := by
  simp only [clause?] at h
  split at h
  · simp at h
  · next hids =>
    obtain rfl := Option.some.inj h
    exact .terms (IdentifierSet.areIdentifiers (eq_false_of_ne_true hids))

namespace Condition

/-- A condition may be required. -/
theorem mayFilter_clause (condition : Condition) : condition.clause.MayFilter := by
  cases condition with
  | present field => exact .present field
  | isTruth field value => exact .term field (.bool value)
  | isText field value => exact .term field (.string value)

/-- A condition may be excluded. -/
theorem mayExclude_clause (condition : Condition) : condition.clause.MayExclude := by
  cases condition with
  | present field => exact .present field
  | isTruth field value => exact .term field (.bool value)
  | isText field value => exact .term field (.string value)

/-- A condition is no group. -/
theorem isGroup_clause (condition : Condition) : condition.clause.isGroup = false := by
  cases condition <;> rfl

end Condition

namespace FreeText

/-- A seller's text adds at most one phrase or group. -/
theorem formedWithin_sellerQuery (box : SellerBox) (fuzziness text : String) :
    (sellerQuery box fuzziness text).FormedWithin 0 1 := by
  have hempty := BooleanQuery.formedWithin_empty.mono (Nat.le_refl 0) (Nat.zero_le 1)
  rw [sellerQuery]
  split
  · exact hempty
  · next c rest _ =>
    split
    · exact hempty
    · exact BooleanQuery.formedWithin_must (.words _ _ _) 1 (Nat.le_refl 1)
    · obtain ⟨others, halternatives, hothers⟩ := exists_sellerAlternatives box fuzziness (c :: rest)
      rw [halternatives, BooleanQuery.ofAlternatives_cons]
      have hchoice := BooleanQuery.isChoice_of_cons
      refine BooleanQuery.formedWithin_must (.group (hchoice _ _) rfl ?_) 1 (Nat.le_refl 1)
      intro clause hclause
      obtain ⟨field, value, rfl⟩ := hothers clause hclause
      exact .term field value

/-- A buyer's text adds at most one group. -/
theorem formedWithin_buyerQuery (box : BuyerBox) (fuzziness text : String) :
    (buyerQuery box fuzziness text).FormedWithin 0 1 := by
  rw [buyerQuery]
  split
  · exact BooleanQuery.formedWithin_empty.mono (Nat.le_refl 0) (Nat.zero_le 1)
  · rw [BooleanQuery.ofAlternatives_cons]
    have hchoice := BooleanQuery.isChoice_of_cons
    refine BooleanQuery.formedWithin_must (.group (hchoice _ _) rfl ?_) 1 (Nat.le_refl 1)
    exact fun clause hclause => absurd hclause List.not_mem_nil

end FreeText

namespace Facet

/--
Identities read options for identifiers, conditions are required without a score, or with one
where they ask for a value at all, and switches exclude.
-/
def isRegular : Facet → Bool
  | .identity _ shape => shape = .reference ∨ shape = .references
  | .flag _ _ .filter => true
  | .flag _ (.present _) .must => true
  | .flag _ _ _ => false
  | .switch _ _ occurrence => occurrence = .mustNot
  | _ => true

/-- How many groups of alternatives a facet may contribute. -/
def groups : Facet → Nat
  | .anyOf _ => 1
  | _ => 0

/-- How many phrases and groups of inexact matches a facet may contribute. -/
def searches : Facet → Nat
  | .sellerText _ => 1
  | .buyerText _ => 1
  | _ => 0

/-- Bounds on one field may be required. -/
theorem formedWithin_boundClauses (field : String) (value? : String → Option Json)
    (bounds : List (String × Bound)) :
    BooleanQuery.FormedWithin { filter := boundClauses field value? bounds } 0 0 := by
  have hrange : ∀ clause ∈ boundClauses field value? bounds,
      ∃ bound value, clause = .range field bound value := by
    intro clause hclause
    obtain ⟨bound, -, hvalue⟩ := List.mem_filterMap.mp hclause
    obtain ⟨value, -, rfl⟩ := Option.map_eq_some_iff.mp hvalue
    exact ⟨bound.2, value, rfl⟩
  constructor
  · intro clause hclause
    obtain ⟨bound, value, rfl⟩ := hrange clause hclause
    exact .range field bound value
  · simp
  · simp
  · rfl
  · rfl
  · rw [Nat.le_zero, List.countP_eq_zero]
    intro clause hclause
    obtain ⟨bound, value, rfl⟩ := hrange clause hclause
    simp [Clause.isGroup]
  · exact Nat.le_refl 0

/-- Every contribution of a regular facet is well formed. -/
theorem formedWithin_contribution {facet : Facet} (h : facet.isRegular = true)
    (settings : Settings) (configuration : Configuration) :
    (facet.contribution settings configuration).FormedWithin facet.groups facet.searches := by
  cases facet with
  | identity source shape =>
    rw [contribution]
    cases hclause : source.clause? settings with
    | none => exact BooleanQuery.formedWithin_empty
    | some clause =>
      have hterms := IdentifierOption.isTerms_of_clause? hclause
      refine BooleanQuery.formedWithin_filter (.terms hterms) 0 ?_
      cases hterms
      exact Nat.le_refl 0
  | anyOf sources =>
    rw [contribution]
    cases hclauses : sources.filterMap (·.clause? settings) with
    | nil => exact BooleanQuery.formedWithin_empty.mono (Nat.zero_le 1) (Nat.le_refl 0)
    | cons clause rest =>
      have hchoice := BooleanQuery.isChoice_of_cons clause rest
      rw [BooleanQuery.ofAlternatives_cons]
      refine BooleanQuery.formedWithin_filter (.group hchoice ?_) 1 (Nat.le_refl 1)
      intro other hother
      have hmem : other ∈ sources.filterMap (·.clause? settings) := hclauses ▸ hother
      obtain ⟨source, -, hsource⟩ := List.mem_filterMap.mp hmem
      exact IdentifierOption.isTerms_of_clause? hsource
  | exclusion source =>
    constructor
    · simp [contribution]
    · simp [contribution]
    · intro clause hclause
      obtain ⟨id, -, rfl⟩ := List.mem_map.mp hclause
      exact .term source.field id.toJson
    · rfl
    · rfl
    · exact Nat.le_refl 0
    · exact Nat.le_refl 0
  | flag option condition whenTrue =>
    rw [contribution]
    split
    · cases whenTrue with
      | filter =>
        refine BooleanQuery.formedWithin_filter condition.mayFilter_clause 0 ?_
        simp [condition.isGroup_clause]
      | must =>
        cases condition with
        | present field => exact BooleanQuery.formedWithin_must (.present field) 0 (Nat.le_refl 0)
        | _ => simp [isRegular] at h
      | mustNot => simp [isRegular] at h
      | should => simp [isRegular] at h
    · exact BooleanQuery.formedWithin_mustNot condition.mayExclude_clause
    · exact BooleanQuery.formedWithin_empty
  | switch option condition occurrence =>
    rw [contribution]
    split
    · obtain rfl : occurrence = .mustNot := by simpa [isRegular] using h
      exact BooleanQuery.formedWithin_mustNot condition.mayExclude_clause
    · exact BooleanQuery.formedWithin_empty
  | numericRange field greaterThan lessThan => exact formedWithin_boundClauses field _ _
  | dateRange field after onOrAfter before onOrBefore => exact formedWithin_boundClauses field _ _
  | sellerText box =>
    rw [contribution]
    split
    · exact FreeText.formedWithin_sellerQuery box configuration.fuzziness _
    · exact BooleanQuery.formedWithin_empty.mono (Nat.le_refl 0) (Nat.zero_le 1)
  | buyerText box =>
    rw [contribution]
    split
    · exact FreeText.formedWithin_buyerQuery box configuration.fuzziness _
    · exact BooleanQuery.formedWithin_empty.mono (Nat.le_refl 0) (Nat.zero_le 1)

end Facet

end FacetedSearch
