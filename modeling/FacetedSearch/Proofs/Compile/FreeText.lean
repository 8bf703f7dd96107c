import FacetedSearch.Proofs.Compile.Form
import FacetedSearch.Proofs.Compile.Inertness
import FacetedSearch.Proofs.Text.Stability
import FacetedSearch.Proofs.Text.Surroundings

/-!
# Free text in requests

A request depends on the canonical form of the text in its search box: blanks around the text,
capital letters of ASCII and a second submission of the form itself make no difference, neither to
the request nor to the error in its place. The form can be read off the request, since it is what
the inexact match of its query asks for.
-/

namespace FacetedSearch

namespace FreeText

/-! ### The canonical form -/

/-- A canonical text is its own canonical form. -/
theorem canonical_canonical (text : String) :
    canonical (String.ofList (canonical text)) = canonical text := by
  rw [canonical, String.toList_ofList, canonical, Text.trim_lower, Text.lower_lower, Text.trim_trim]

/-- Blanks around a text do not change its canonical form. -/
theorem canonical_append_blanks {before after : List Char} (text : String)
    (hbefore : ∀ c ∈ before, Text.isBlank c = true)
    (hafter : ∀ c ∈ after, Text.isBlank c = true) :
    canonical (String.ofList (before ++ text.toList ++ after)) = canonical text := by
  rw [canonical, canonical, String.toList_ofList, Text.trim_append_blanks hbefore hafter]

/-- With small letters of ASCII for its capital ones, a text has the same canonical form. -/
theorem canonical_toLower (text : String) : canonical text.toLower = canonical text := by
  have hlower (before text : List Char) :
      Text.lowerAfter (before.map Char.toLower) (text.map Char.toLower) =
        Text.lowerAfter before text := Text.lowerAfter_map_toLower
  have htext : text.toLower.toList = text.toList.map Char.toLower := String.toList_map
  rw [canonical, canonical, htext, Text.trim_map_toLower]
  exact hlower [] (Text.trim text.toList)

theorem sellerQuery_congr (box : SellerBox) (fuzziness : String) {text text' : String}
    (h : canonical text = canonical text') :
    sellerQuery box fuzziness text = sellerQuery box fuzziness text' := by
  rw [sellerQuery, sellerQuery, h]

theorem buyerQuery_congr (box : BuyerBox) (fuzziness : String) {text text' : String}
    (h : canonical text = canonical text') :
    buyerQuery box fuzziness text = buyerQuery box fuzziness text' := by
  rw [buyerQuery, buyerQuery, h]

/-- A group that a seller's text asks for begins with the canonical form of the text. -/
theorem query_of_group_sellerQuery {box : SellerBox} {fuzziness text : String}
    {inner : BooleanQuery} (hgroup : .group inner ∈ (sellerQuery box fuzziness text).must) :
    inner.should.head? =
      some (.fuzzy box.fuzzyFields (String.ofList (canonical text)) fuzziness) := by
  rcases sellerQuery_cases box fuzziness text with hidle | ⟨phrase, -, -, hquery⟩ | ⟨-, -, hquery⟩
  · rw [sellerQuery_of_isIdle box fuzziness hidle] at hgroup
    exact absurd hgroup List.not_mem_nil
  · rw [hquery] at hgroup
    exact absurd (List.mem_singleton.mp hgroup) (by simp)
  · rw [hquery, sellerAlternatives, List.cons_append, BooleanQuery.ofAlternatives_cons] at hgroup
    obtain rfl := Clause.group.inj (List.mem_singleton.mp hgroup)
    rfl

/-- A group that a buyer's text asks for begins with the canonical form of the text. -/
theorem query_of_group_buyerQuery {box : BuyerBox} {fuzziness text : String}
    {inner : BooleanQuery} (hgroup : .group inner ∈ (buyerQuery box fuzziness text).must) :
    inner.should.head? =
      some (.fuzzy box.fuzzyFields (String.ofList (canonical text)) fuzziness) := by
  rw [buyerQuery] at hgroup
  cases hcanonical : canonical text with
  | nil =>
    rw [hcanonical] at hgroup
    exact absurd hgroup List.not_mem_nil
  | cons c rest =>
    rw [hcanonical] at hgroup
    obtain rfl := Clause.group.inj (List.mem_singleton.mp hgroup)
    rfl

end FreeText

namespace Collection

variable {collection : Collection} {configuration : Configuration} {options : OptionSet}
  {a b settings : Settings} {name : String}

/-- A collection has one option for text. -/
theorem eq_of_text {name' : String} (h : ⟨name, .text⟩ ∈ collection.declarations)
    (h' : ⟨name', .text⟩ ∈ collection.declarations) : name = name' := by
  obtain ⟨option, htexts⟩ : ∃ option,
      collection.declarations.filter (·.shape = .text) = [⟨option, .text⟩] := by
    cases collection with
    | transactions => exact ⟨"seller_query", rfl⟩
    | messages => exact ⟨"query", rfl⟩
  have hone {name : String} (h : ⟨name, .text⟩ ∈ collection.declarations) : name = option := by
    have hmem : ⟨name, .text⟩ ∈ collection.declarations.filter (·.shape = .text) :=
      List.mem_filter.mpr ⟨h, decide_eq_true rfl⟩
    rw [htexts, List.mem_singleton] at hmem
    exact (Declaration.mk.inj hmem).1
  rw [hone h, hone h']

/-- Texts with the same canonical form give the same request. -/
theorem request_eq_of_canonical {text text' : String}
    (hname : ⟨name, .text⟩ ∈ collection.declarations)
    (hagree : ∀ other, other ≠ name → a.get? other = b.get? other)
    (ha : a.text name = some text) (hb : b.text name = some text')
    (h : FreeText.canonical text = FreeText.canonical text') :
    collection.request configuration a = collection.request configuration b := by
  obtain ⟨facet, hfacet, hdeclared, hbox⟩ := searchBox_of_text hname
  refine request_eq_of_contribution hfacet (Facet.agree_outside hdeclared hagree) ?_
  rcases hbox with ⟨box, rfl⟩ | ⟨box, rfl⟩
  · obtain ⟨rfl, -⟩ := Declaration.mk.inj (List.mem_singleton.mp hdeclared)
    simp only [Facet.contribution, ha, hb]
    exact FreeText.sellerQuery_congr box _ h
  · obtain ⟨rfl, -⟩ := Declaration.mk.inj (List.mem_singleton.mp hdeclared)
    simp only [Facet.contribution, ha, hb]
    exact FreeText.buyerQuery_congr box _ h

/-- The only groups that must hold come from a search box, with the canonical form of its text. -/
theorem exists_text_of_group {inner : BooleanQuery}
    (hgroup : .group inner ∈ (collection.query configuration settings).must) :
    ∃ option text fields fuzziness, ⟨option, .text⟩ ∈ collection.declarations ∧
      settings.text option = some text ∧
      inner.should.head? =
        some (.fuzzy fields (String.ofList (FreeText.canonical text)) fuzziness) := by
  have hmust : .group inner ∈ (collection.query configuration settings).clauses .must := hgroup
  obtain ⟨facet, hfacet, hcontributed⟩ := mem_clauses_query_iff.mp hmust
  -- Any other facet would contribute no group to what must hold.
  have hsearches : 0 < facet.searches :=
    Nat.lt_of_lt_of_le (List.countP_pos_iff.mpr ⟨_, hcontributed, rfl⟩)
      (Facet.formedWithin_contribution (isRegular_of_mem hfacet) settings configuration).searches_le
  have hdeclared {declaration : Declaration} (h : declaration ∈ facet.declarations) :
      declaration ∈ collection.declarations :=
    mem_declarations_iff.mpr (.inl ⟨facet, hfacet, h⟩)
  cases facet with
  | sellerText box =>
    cases htext : settings.text box.option with
    | none =>
      simp only [Facet.contribution, htext] at hcontributed
      exact absurd hcontributed List.not_mem_nil
    | some text =>
      simp only [Facet.contribution, htext] at hcontributed
      exact ⟨box.option, text, _, _, hdeclared List.mem_cons_self, htext,
        FreeText.query_of_group_sellerQuery hcontributed⟩
  | buyerText box =>
    cases htext : settings.text box.option with
    | none =>
      simp only [Facet.contribution, htext] at hcontributed
      exact absurd hcontributed List.not_mem_nil
    | some text =>
      simp only [Facet.contribution, htext] at hcontributed
      exact ⟨box.option, text, _, _, hdeclared List.mem_cons_self, htext,
        FreeText.query_of_group_buyerQuery hcontributed⟩
  | _ => exact absurd hsearches (Nat.lt_irrefl 0)

end Collection

/-- Texts with the same canonical form give the same request or the same error. -/
theorem compile_insert_text_eq {collection : Collection} {name : String}
    (hname : ⟨name, .text⟩ ∈ collection.declarations) (configuration : Configuration)
    (options : OptionSet) {text text' : String}
    (h : FreeText.canonical text = FreeText.canonical text') :
    compile configuration collection (options.insert name (.text text)) =
      compile configuration collection (options.insert name (.text text')) := by
  have hshape := Collection.get?_shapes_iff.mpr hname
  have htakes (text : String) : collection.schema.Takes name (.text text) :=
    ⟨.text, hshape, .text text⟩
  have htext {text : String} {settings : Settings}
      (hsettings : collection.schema.settings (options.insert name (.text text)) = .ok settings) :
      settings.text name = some text := by
    rw [Schema.text_eq hsettings hshape, OptionSet.value, NameMap.get?_insert_self]
    rfl
  rw [compile, compile]
  cases ha : collection.schema.settings (options.insert name (.text text)) with
  | error error =>
    rw [Schema.settings_insert_eq_error (htakes text) (htakes text') ha]
  | ok a =>
    cases hb : collection.schema.settings (options.insert name (.text text')) with
    | error error =>
      have herror := Schema.settings_insert_eq_error (htakes text') (htakes text) hb
      simp [ha] at herror
    | ok b =>
      refine congrArg Except.ok ?_
      refine Collection.request_eq_of_canonical hname (fun other hother => ?_) (htext ha)
        (htext hb) h
      apply Schema.get?_settings_congr ha hb
      rw [NameMap.get?_insert, NameMap.get?_insert, if_neg hother, if_neg hother]

/-- What an inexact match asks for is the canonical form of the text that was supplied. -/
theorem exists_text_of_fuzzy {configuration : Configuration} {collection : Collection}
    {options : OptionSet} {request : Request}
    (h : compile configuration collection options = .ok request) {fields : List String}
    {query fuzziness : String}
    (hstands : (Clause.fuzzy fields query fuzziness).StandsIn request.query) :
    ∃ option text, ⟨option, .text⟩ ∈ collection.declarations ∧
      options.get? option = some (.text text) ∧
      query = String.ofList (FreeText.canonical text) := by
  obtain ⟨settings, hsettings, rfl⟩ := compile_eq_ok_iff.mp h
  obtain ⟨inner, others, hgroup, hshould⟩ :=
    (collection.wellFormed_query configuration settings).exists_group_of_fuzzy hstands
  obtain ⟨option, text, _, _, hoption, htext, hfirst⟩ := Collection.exists_text_of_group hgroup
  rw [hshould, List.head?_cons, Option.some.injEq, Clause.fuzzy.injEq] at hfirst
  refine ⟨option, text, hoption, ?_, hfirst.2.1⟩
  rw [Schema.text_eq hsettings (Collection.get?_shapes_iff.mpr hoption),
    Supplied.text?_eq_some_iff, OptionSet.value, Option.getD_eq_iff] at htext
  simpa using htext

/--
Free text is insensitive to blanks around it, to capital letters of ASCII and to being submitted
again. Under the text option of a collection, whatever the other options are, a text gives the
same request or the same error as the text with blanks before and after it, as any text that
differs from it in the letter case of ASCII letters only, and as its canonical form, which is its
own canonical form. So the query of an inexact match that stands anywhere in a request gives this
request again when it is supplied as the text.
-/
theorem free_text_insensitive {collection : Collection} {name : String}
    (hname : ⟨name, .text⟩ ∈ collection.declarations) (configuration : Configuration)
    (options : OptionSet) (text : String) :
    (∀ before after : List Char, (∀ c ∈ before, Text.isBlank c = true) →
      (∀ c ∈ after, Text.isBlank c = true) →
        compile configuration collection (options.insert name
            (.text (String.ofList (before ++ text.toList ++ after)))) =
          compile configuration collection (options.insert name (.text text))) ∧
    (∀ text' : String, text'.toLower = text.toLower →
      compile configuration collection (options.insert name (.text text')) =
        compile configuration collection (options.insert name (.text text))) ∧
    compile configuration collection (options.insert name
        (.text (String.ofList (Text.lower (Text.trim text.toList))))) =
      compile configuration collection (options.insert name (.text text)) ∧
    FreeText.canonical (String.ofList (FreeText.canonical text)) = FreeText.canonical text ∧
    ∀ (request : Request) (fields : List String) (query fuzziness : String),
      compile configuration collection options = .ok request →
      (Clause.fuzzy fields query fuzziness).StandsIn request.query →
        compile configuration collection (options.insert name (.text query)) = .ok request := by
  refine ⟨?_, ?_, ?_, FreeText.canonical_canonical text, ?_⟩
  · intro before after hbefore hafter
    exact compile_insert_text_eq hname configuration options
      (FreeText.canonical_append_blanks text hbefore hafter)
  · intro text' hsame
    have hcanonical : FreeText.canonical text' = FreeText.canonical text := by
      rw [← FreeText.canonical_toLower text', hsame, FreeText.canonical_toLower]
    exact compile_insert_text_eq hname configuration options hcanonical
  · exact compile_insert_text_eq hname configuration options (FreeText.canonical_canonical text)
  · intro request fields query fuzziness hrequest hstands
    obtain ⟨option, supplied, hoption, hget, rfl⟩ := exists_text_of_fuzzy hrequest hstands
    obtain rfl := Collection.eq_of_text hoption hname
    rw [compile_insert_text_eq hname configuration options (FreeText.canonical_canonical supplied),
      NameMap.insert_eq_self hget, hrequest]

/-- Padded, in other letter case and as it stands in the request, one text asks for one thing. -/
theorem greek_text_resubmitted :
    ∃ (options : OptionSet) (request : Request),
      options = .ofList [("limit", .int 5), ("query", .text "ΟΔΟΣ News")] ∧
      compile {} .messages options = .ok request ∧
      (Clause.fuzzy ["name", "message"] "οδος news" "AUTO").StandsIn request.query ∧
      compile {} .messages (options.insert "query" (.text "\u2003ΟΔΟΣ News\n")) = .ok request ∧
      compile {} .messages (options.insert "query" (.text "ΟΔΟΣ nEWS")) = .ok request ∧
      compile {} .messages (options.insert "query" (.text "οδος news")) = .ok request := by
  let options : OptionSet := .ofList [("limit", .int 5), ("query", .text "ΟΔΟΣ News")]
  have hname : ⟨"query", .text⟩ ∈ Collection.messages.declarations := by decide +kernel
  obtain ⟨request, hrequest⟩ : ∃ request, compile {} .messages options = .ok request := by
    apply exists_request_ofList
    simp only [List.forall_mem_cons, List.not_mem_nil, false_imp_iff, implies_true, and_true]
    exact ⟨⟨.count, by decide +kernel, .count (by decide)⟩, .text, hname, .text _⟩
  have hstands : (Clause.fuzzy ["name", "message"] "οδος news" "AUTO").StandsIn request.query := by
    obtain ⟨settings, hsettings, rfl⟩ := compile_eq_ok_iff.mp hrequest
    have htext : settings.text "query" = some "ΟΔΟΣ News" :=
      Schema.text_eq hsettings (Collection.get?_shapes_iff.mpr hname)
    have hcanonical : FreeText.canonical "ΟΔΟΣ News" = "οδος news".toList := by decide +kernel
    let choice : BooleanQuery :=
      { should := [.fuzzy ["name", "message"] "οδος news" "AUTO"], minimum := some 1 }
    have hgroup : .group choice ∈ (Collection.messages.query {} settings).clauses .must := by
      refine Collection.mem_clauses_query_iff.mpr
        ⟨.buyerText ⟨"query", ["name", "message"]⟩, by decide +kernel, ?_⟩
      simp only [Facet.contribution, htext, FreeText.buyerQuery, hcanonical]
      exact List.mem_cons_self
    have hlisted : Clause.fuzzy ["name", "message"] "οδος news" "AUTO" ∈ choice.clauses .should :=
      List.mem_cons_self
    exact .nested hgroup (.listed hlisted)
  obtain ⟨hblanks, hcase, -, -, hresubmit⟩ := free_text_insensitive hname {} options "ΟΔΟΣ News"
  have hself : options.insert "query" (.text "ΟΔΟΣ News") = options := NameMap.insert_eq_self rfl
  have hpadded := hblanks ['\u2003'] ['\n'] (List.forall_mem_singleton.mpr (by decide))
    (List.forall_mem_singleton.mpr (by decide))
  have hsame : "ΟΔΟΣ nEWS".toLower = "ΟΔΟΣ News".toLower := by
    have hlower (text : String) : text.toLower.toList = text.toList.map Char.toLower :=
      String.toList_map
    rw [← String.toList_inj, hlower, hlower]
    decide +kernel
  have hlower := hcase "ΟΔΟΣ nEWS" hsame
  have htext : String.ofList (['\u2003'] ++ "ΟΔΟΣ News".toList ++ ['\n']) =
      "\u2003ΟΔΟΣ News\n" := by
    decide +kernel
  rw [hself, hrequest] at hpadded hlower
  rw [htext] at hpadded
  exact ⟨options, request, rfl, hrequest, hstands, hpadded, hlower,
    hresubmit request _ _ _ hrequest hstands⟩

end FacetedSearch
