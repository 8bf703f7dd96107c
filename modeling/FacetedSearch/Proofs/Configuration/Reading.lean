import FacetedSearch.Configuration.Text
import FacetedSearch.Proofs.Configuration.Validation
import FacetedSearch.Proofs.Json.Outlines

/-!
# Reading written configurations

Every text that writes a configuration is read as this configuration, and then checked.
-/

namespace FacetedSearch.Configuration

open Json (Member Piece decode? IsCodeUnit IsNumber IsObjectText IsText SpellsText areSpaces_nil
  spellsText_self)

/-- Decoded members stand for the members that were written. -/
def NamedDenotes (named : String × Option (List Piece)) (written : String × Option String) : Prop :=
  named.1 = written.1 ∧
    Option.Rel (fun pieces content => decode? pieces = some content) named.2 written.2

theorem exists_named {members : List Member} {list : List (String × Option String)}
    (h : List.Forall₂ Member.Denotes members list) :
    ∃ named, members.mapM namedMember? = some named ∧ List.Forall₂ NamedDenotes named list := by
  induction h with
  | nil => exact ⟨[], rfl, .nil⟩
  | @cons member _ _ _ hdenotes _ ih =>
    obtain ⟨named, hnamed, hall⟩ := ih
    obtain ⟨hname, hvalue⟩ := hdenotes
    refine ⟨(_, member.value) :: named, ?_, .cons ⟨rfl, hvalue⟩ hall⟩
    simp [List.mapM_cons, namedMember?, hname, hnamed]

theorem filter_eq_nil {list : List (String × Option String)} {name : String}
    (h : ∀ named ∈ list, named.1 ≠ name) : list.filter (·.1 = name) = [] :=
  List.filter_eq_nil_iff.mpr fun named hmem => by simpa using h named hmem

/-- The members with the name of a field are its one member, or none. -/
theorem Gives.filter_eq {name default value : String} {list : List (String × Option String)}
    (h : Gives name default list value) :
    list.filter (·.1 = name) = [(name, some value)] ∨
      list.filter (·.1 = name) = [] ∧ value = default := by
  cases h with
  | written _ hbefore hafter =>
    left
    rw [List.filter_append, List.filter_cons_of_pos (by simp), filter_eq_nil hbefore,
      filter_eq_nil hafter, List.nil_append]
  | omitted h => exact .inr ⟨filter_eq_nil h, rfl⟩

theorem fieldText?_of_gives {named : List (String × Option (List Piece))}
    {list : List (String × Option String)} {name default value : String}
    (h : List.Forall₂ NamedDenotes named list) (hgives : Gives name default list value) :
    fieldText? named name default = some value := by
  have hfilter : List.Forall₂ NamedDenotes (named.filter (·.1 = name)) (list.filter (·.1 = name)) :=
    List.rel_filter (fun _ _ hdenotes => by simp [hdenotes.1]) h
  rw [fieldText?]
  rcases hgives.filter_eq with hwritten | ⟨homitted, rfl⟩
  · rw [hwritten] at hfilter
    obtain ⟨⟨_, _⟩, _, ⟨_, hvalue⟩, hnil, hfilter⟩ := List.forall₂_cons_right_iff.mp hfilter
    obtain rfl := List.forall₂_nil_right_iff.mp hnil
    cases hvalue with
    | some hdecode => rw [hfilter]; exact hdecode
  · rw [homitted, List.forall₂_nil_right_iff] at hfilter
    rw [hfilter]

theorem ofMembers?_of_denotes {configuration : Configuration} {members : List Member}
    {list : List (String × Option String)} (h : List.Forall₂ Member.Denotes members list)
    (hindex : Gives "index_prefix" "commerce" list configuration.indexPrefix)
    (hfuzziness : Gives "fuzziness" "AUTO" list configuration.fuzziness) :
    ofMembers? members = some configuration := by
  obtain ⟨named, hnamed, hall⟩ := exists_named h
  have hindexText : fieldText? named indexPrefixName "commerce" = some configuration.indexPrefix :=
    fieldText?_of_gives hall hindex
  have hfuzzinessText : fieldText? named fuzzinessName "AUTO" = some configuration.fuzziness :=
    fieldText?_of_gives hall hfuzziness
  simp [ofMembers?, hnamed, hindexText, hfuzzinessText]

/-- A text that writes a configuration is read as this configuration. -/
theorem IsWrittenAs.read?_eq {configuration : Configuration} {text : String}
    (h : configuration.IsWrittenAs text) : read? text = some configuration := by
  obtain ⟨hobject, hindex, hfuzziness⟩ := h
  obtain ⟨tokens, members, htokens, hmembers, hdenotes, others, rfl⟩ := hobject.exists_members
  have hread : ofTokens? (.opening .curly :: others) =
      (Json.objectMembers? (.opening .curly :: others)).bind ofMembers? := rfl
  rw [read?, htokens, Option.bind_some, hread, hmembers, Option.bind_some,
    ofMembers?_of_denotes hdenotes hindex hfuzziness]

theorem IsWrittenAs.ofText_eq {configuration : Configuration} {text : String}
    (h : configuration.IsWrittenAs text) : ofText text = configuration.validate := by
  rw [ofText, h.read?_eq]

/-! ### Checked texts -/

theorem exists_memberText (name value : String) :
    ∃ text, IsText (.member (name, some value)) text := by
  obtain ⟨nameText, hname⟩ := Json.exists_isStringText name
  obtain ⟨valueText, hvalue⟩ := Json.exists_isStringText value
  exact ⟨_, .member areSpaces_nil hname areSpaces_nil
    (.item areSpaces_nil (.string hvalue) areSpaces_nil)⟩

/-- Every configuration is written by some text. -/
theorem exists_isWrittenAs (configuration : Configuration) :
    ∃ text, configuration.IsWrittenAs text := by
  obtain ⟨first, hfirst⟩ := exists_memberText "index_prefix" configuration.indexPrefix
  obtain ⟨second, hsecond⟩ := exists_memberText "fuzziness" configuration.fuzziness
  have hobject := IsObjectText.surrounded areSpaces_nil
    (.object (.moreMembers hfirst (.lastMember hsecond))) areSpaces_nil
  refine ⟨String.ofList _, .object (by rwa [String.toList_ofList]) ?_ ?_⟩
  · exact @Gives.written _ _ [] _ _ (by simp) (by simp)
  · exact @Gives.written _ _ [_] _ _ (by simp) (by simp)

theorem validate_eq_ok {configuration other : Configuration}
    (h : configuration.validate = .ok other) : other = configuration := by
  unfold validate at h
  split at h <;> simp_all

/-- The texts that are accepted hold exactly the usable configurations. -/
theorem exists_ofText_eq_ok_iff (configuration : Configuration) :
    (∃ text, ofText text = .ok configuration) ↔ configuration.IsUsable := by
  constructor
  · rintro ⟨text, h⟩
    unfold ofText at h
    split at h
    · simp at h
    · obtain rfl := validate_eq_ok h
      exact validate_eq_ok_iff.mp h
  · intro h
    obtain ⟨text, htext⟩ := configuration.exists_isWrittenAs
    exact ⟨text, htext.ofText_eq.trans (validate_eq_ok_iff.mpr h)⟩

/--
However a configuration is written, its text is accepted exactly if the configuration is usable,
and otherwise the first fault is reported, with the first wrong character of the prefix in the
message. All texts of one configuration have one outcome, those that write a default and those that
leave it out.
-/
theorem written_text_checked (configuration : Configuration) (text : String)
    (h : configuration.IsWrittenAs text) :
    (ofText text = .ok configuration ↔ configuration.IsUsable) ∧
    ofText text = configuration.validate ∧
    (∀ fault, ofText text = .error (.configuration fault) ↔ configuration.FirstFault fault) ∧
    (∀ c, configuration.FirstFault (.invalidCharacter configuration.indexPrefix c) →
      ∃ error, ofText text = .error error ∧
        error.message = "invalid compiler configuration: index_prefix '" ++
          configuration.indexPrefix ++ "' contains invalid character '" ++ c.toString ++ "'") ∧
    ∀ other, configuration.IsWrittenAs other → ofText other = ofText text := by
  rw [h.ofText_eq]
  refine ⟨validate_eq_ok_iff, rfl, fun fault => validate_eq_error_iff,
    fun c hc => ?_, fun other hother => hother.ofText_eq⟩
  exact ⟨_, validate_eq_error_iff.mpr hc, rfl⟩

/-- A name with an escape, a surrogate pair in another member, and a field that is left out. -/
theorem escaped_text_read :
    ofText "\x7b \"extra\":[1,\"\\ud83d\\ude00\"],\n\"\\u0069ndex_prefix\": \"shop-eu\"\x7d" =
      .ok { indexPrefix := "shop-eu" } := by
  have hspace : Json.AreSpaces [' '] := by simp [Json.AreSpaces]
  have hline : Json.AreSpaces ['\n'] := by simp [Json.AreSpaces]
  have hfirst : IsCodeUnit ['d', '8', '3', 'd'] (0xD800 + 0x3D) :=
    @IsCodeUnit.digits _ _ _ _ 13 8 3 13 (.inl rfl) (.inl rfl) (.inl rfl) (.inl rfl)
  have hsecond : IsCodeUnit ['d', 'e', '0', '0'] (0xDC00 + 0x200) :=
    @IsCodeUnit.digits _ _ _ _ 13 14 0 0 (.inl rfl) (.inl rfl) (.inl rfl) (.inl rfl)
  have hletter : IsCodeUnit ['0', '0', '6', '9'] 'i'.toNat :=
    @IsCodeUnit.digits _ _ _ _ 0 0 6 9 (.inl rfl) (.inl rfl) (.inl rfl) (.inl rfl)
  have hface : SpellsText "\\ud83d\\ude00".toList "😀".toList :=
    .cons (.pair hfirst hsecond (by decide) (by decide) rfl) .nil
  have hname : SpellsText "\\u0069ndex_prefix".toList "index_prefix".toList :=
    .cons (.unit hletter) (spellsText_self rfl)
  have hextra : SpellsText "extra".toList "extra".toList := spellsText_self rfl
  have hvalue : SpellsText "shop-eu".toList "shop-eu".toList := spellsText_self rfl
  have hone : IsNumber ['1'] :=
    @IsNumber.parts [] ['1'] [] [] (.inl rfl) (.digits ⟨by simp, by simp⟩ (by simp)) .missing
      .missing
  have hitems := IsText.moreItems (.item areSpaces_nil (.number hone) areSpaces_nil)
    (.lastItem (.item areSpaces_nil (.string (.quoted hface)) areSpaces_nil))
  have hmembers := IsText.moreMembers
    (.member hspace (.quoted hextra) areSpaces_nil
      (.item areSpaces_nil (.array hitems) areSpaces_nil))
    (.lastMember (.member hline (.quoted hname) areSpaces_nil
      (.item hspace (.string (.quoted hvalue)) areSpaces_nil)))
  have hobject := IsObjectText.surrounded areSpaces_nil (.object hmembers) areSpaces_nil
  have hgives : Gives "index_prefix" "commerce"
      [("extra", none), ("index_prefix", some "shop-eu")] "shop-eu" :=
    @Gives.written _ _ [_] [] _ (by simp) (by simp)
  exact (written_text_checked { indexPrefix := "shop-eu" } _
    (.object hobject hgives (.omitted (by simp)))).1.mpr
    ⟨by decide, find?_not_allowed_eq_none_iff.mp rfl, 'A', List.mem_cons_self, rfl⟩

end FacetedSearch.Configuration
