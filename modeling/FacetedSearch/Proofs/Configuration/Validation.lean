import FacetedSearch.Configuration.Written

/-!
# Validation of configurations

Checking a configuration finds the fault that comes first, and no fault exactly if all that is
asked of a configuration holds. The three faults and usability exclude each other by what they
say of the prefix and the fuzziness, and one of the four always holds.
-/

namespace FacetedSearch.Configuration

variable {configuration : Configuration} {fault : ConfigurationFault}

theorem allowsCharacter_iff (c : Char) : allowsCharacter c = true ↔ InIndexName c := by
  have hlower : c.isLower = true ↔ 'a' ≤ c ∧ c ≤ 'z' := by
    change (decide ('a' ≤ c) && decide (c ≤ 'z')) = true ↔ _
    rw [Bool.and_eq_true, decide_eq_true_iff, decide_eq_true_iff]
  have hdigit : c.isDigit = true ↔ '0' ≤ c ∧ c ≤ '9' := by
    change (decide ('0' ≤ c) && decide (c ≤ '9')) = true ↔ _
    rw [Bool.and_eq_true, decide_eq_true_iff, decide_eq_true_iff]
  simp only [allowsCharacter, InIndexName, Bool.or_eq_true, beq_iff_eq, hlower, hdigit, or_assoc]

/-- The search for a wrong character in the prefix finds the first one. -/
theorem find?_not_allowed_eq_some_iff {text : List Char} {c : Char} :
    text.find? (fun d => !allowsCharacter d) = some c ↔
      ¬ InIndexName c ∧
        ∃ before after, text = before ++ c :: after ∧ ∀ d ∈ before, InIndexName d := by
  rw [List.find?_eq_some_iff_append]
  simp [← allowsCharacter_iff]

theorem find?_not_allowed_eq_none_iff {text : List Char} :
    text.find? (fun d => !allowsCharacter d) = none ↔ ∀ c ∈ text, InIndexName c := by
  rw [List.find?_eq_none]
  simp [← allowsCharacter_iff]

theorem allBlank_iff (text : String) :
    Text.allBlank text = true ↔ ∀ c ∈ text.toList, Text.isBlank c = true :=
  List.all_eq_true

theorem FirstFault.fault?_eq (h : configuration.FirstFault fault) :
    configuration.fault? = some fault := by
  cases h with
  | emptyIndexPrefix h => rw [fault?, if_pos h]
  | invalidCharacter h hbefore hc =>
    have hne : configuration.indexPrefix ≠ "" := by
      intro hempty
      simp [hempty] at h
    rw [fault?, if_neg hne, find?_not_allowed_eq_some_iff.mpr ⟨hc, _, _, h, hbefore⟩]
  | blankFuzziness hne hmem h =>
    rw [fault?, if_neg hne, find?_not_allowed_eq_none_iff.mpr hmem]
    exact if_pos ((allBlank_iff _).mpr h)

theorem IsUsable.fault?_eq (h : configuration.IsUsable) : configuration.fault? = none := by
  obtain ⟨hne, hmem, c, hc, hblank⟩ := h
  rw [fault?, if_neg hne, find?_not_allowed_eq_none_iff.mpr hmem]
  refine if_neg fun hall => ?_
  have := (allBlank_iff _).mp hall c hc
  simp_all

theorem isUsable_or_firstFault (configuration : Configuration) :
    configuration.IsUsable ∨ ∃ fault, configuration.FirstFault fault := by
  by_cases hne : configuration.indexPrefix = ""
  · exact .inr ⟨_, .emptyIndexPrefix hne⟩
  cases hfind : configuration.indexPrefix.toList.find? fun d => !allowsCharacter d with
  | some c =>
    obtain ⟨hc, before, after, h, hbefore⟩ := find?_not_allowed_eq_some_iff.mp hfind
    exact .inr ⟨_, .invalidCharacter h hbefore hc⟩
  | none =>
    have hmem := find?_not_allowed_eq_none_iff.mp hfind
    by_cases hblank : ∀ c ∈ configuration.fuzziness.toList, Text.isBlank c = true
    · exact .inr ⟨_, .blankFuzziness hne hmem hblank⟩
    · exact .inl ⟨hne, hmem, by simpa using hblank⟩

theorem fault?_eq_some_iff :
    configuration.fault? = some fault ↔ configuration.FirstFault fault := by
  refine ⟨fun h => ?_, FirstFault.fault?_eq⟩
  rcases configuration.isUsable_or_firstFault with husable | ⟨other, hother⟩
  · simp [husable.fault?_eq] at h
  · rw [hother.fault?_eq, Option.some.injEq] at h
    exact h ▸ hother

theorem fault?_eq_none_iff : configuration.fault? = none ↔ configuration.IsUsable := by
  refine ⟨fun h => ?_, IsUsable.fault?_eq⟩
  rcases configuration.isUsable_or_firstFault with husable | ⟨fault, hfault⟩
  · exact husable
  · simp [hfault.fault?_eq] at h

theorem validate_eq_ok_iff :
    configuration.validate = .ok configuration ↔ configuration.IsUsable := by
  rw [← fault?_eq_none_iff, validate]
  split <;> simp_all

theorem validate_eq_error_iff :
    configuration.validate = .error (.configuration fault) ↔ configuration.FirstFault fault := by
  rw [← fault?_eq_some_iff, validate]
  split <;> simp_all

end FacetedSearch.Configuration
