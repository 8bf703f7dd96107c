import FacetedSearch.Proofs.Compile.Requests
import FacetedSearch.Proofs.Facet.Inertness

/-!
# Inert options

Which values make no difference to a request: those that set nothing and, in the search
boxes, the texts that nothing is made of. Any other value can be seen in the request, since
without it the request has fewer conditions or a control less.
-/

namespace FacetedSearch

/-- Equality of controls, with the two zeros among the doubles taken as equal. -/
structure Controls.Same (a b : Controls) : Prop where
  offset : a.offset = b.offset
  limit : a.limit = b.limit
  sort : Option.Rel (fun v w : Json => v.same w = true) a.sort b.sort
  fields : Option.Rel (fun v w : Json => v.same w = true) a.fields b.fields
  aggregations : Option.Rel (fun v w : Json => v.same w = true) a.aggregations b.aggregations
  trackTotalHits : a.trackTotalHits = b.trackTotalHits

/-- Equality of requests, with the two zeros among the doubles taken as equal. -/
structure Request.Same (a b : Request) : Prop where
  collection : a.collection = b.collection
  index : a.index = b.index
  query : a.query.same b.query = true
  controls : a.controls.Same b.controls

/-- The values that make no difference for an option of a collection. -/
inductive Collection.Inert (collection : Collection) (name : String) : Supplied → Prop
  | setsNothing {shape : Shape} {value : Supplied}
      (hshape : ⟨name, shape⟩ ∈ collection.declarations) (h : shape.SetsNothing value) :
      Inert collection name value
  | blankText {text : String} (hname : name = "seller_query" ∨ name = "query")
      (h : Text.trim text.toList = []) : Inert collection name (.text text)
  /-- Only sellers can put a phrase in double quotes. -/
  | blankPhrase {text : String} {inner : List Char} (hname : name = "seller_query")
      (h : Text.trim text.toList = '"' :: (inner ++ ['"']))
      (hblank : ∀ c ∈ inner, Text.isBlank c = true) : Inert collection name (.text text)

/-! ### Requests that are the same -/

theorem Json.relOption_self (value : Option Json) :
    Option.Rel (fun v w : Json => v.same w = true) value value := by
  cases value with
  | none => exact .none
  | some value => exact .some value.same_self

theorem Controls.Same.refl (controls : Controls) : controls.Same controls where
  offset := rfl
  limit := rfl
  sort := Json.relOption_self controls.sort
  fields := Json.relOption_self controls.fields
  aggregations := Json.relOption_self controls.aggregations
  trackTotalHits := rfl

theorem Request.Same.refl (request : Request) : request.Same request where
  collection := rfl
  index := rfl
  query := request.query.same_self
  controls := .refl request.controls

/-! ### Controls -/

namespace Controls

variable {a b : Settings} {name : String} {shape : Shape} {setting : Setting}

/-- A count that is the same after it is set back was not set before. -/
theorem inert_of_count (h : a.Resets b name .count setting)
    (hsame : b.count name = a.count name) : setting = Shape.inert .count := by
  obtain ⟨hbefore, hafter⟩ := h.count_eq
  rw [hbefore, ← hsame, hafter, Shape.inert]

/-- A document that is the same after it is set back was not set before. -/
theorem inert_of_document (h : a.Resets b name .document setting)
    (hsame : Option.Rel (fun v w : Json => v.same w = true) (b.document name) (a.document name)) :
    setting = Shape.inert .document := by
  obtain ⟨hbefore, hafter⟩ := h.document_eq
  rw [hafter] at hsame
  cases hdocument : a.document name with
  | none => rw [hbefore, hdocument, Shape.inert]
  | some value =>
    rw [hdocument] at hsame
    exact absurd hsame Option.not_rel_none_some

/-- A control that is the same after it is set back was not determined before. -/
theorem inert_of_same (h : a.Resets b name shape setting)
    (hname : ⟨name, shape⟩ ∈ declarations) (hsame : (ofSettings b).Same (ofSettings a)) :
    setting = shape.inert := by
  simp only [declarations, List.mem_cons, List.not_mem_nil, or_false, Declaration.mk.injEq]
    at hname
  rcases hname with ⟨rfl, rfl⟩ | ⟨rfl, rfl⟩ | ⟨rfl, rfl⟩ | ⟨rfl, rfl⟩ | ⟨rfl, rfl⟩ | ⟨rfl, rfl⟩
  · exact inert_of_count h hsame.offset
  · exact inert_of_count h hsame.limit
  · exact inert_of_document h hsame.sort
  · exact inert_of_document h hsame.fields
  · exact inert_of_document h hsame.aggregations
  · obtain ⟨hbefore, hafter⟩ := h.flag_eq
    have hflag : b.flag "track_total_hits" = a.flag "track_total_hits" := hsame.trackTotalHits
    rw [hbefore, ← hflag, hafter, Shape.inert]

end Controls

/-! ### Options of a collection -/

namespace Collection

variable {collection : Collection} {name : String} {shape : Shape} {value : Supplied}
  {setting : Setting}

/-- The options of the search boxes hold texts. -/
theorem shape_of_searchBox (h : ⟨name, shape⟩ ∈ collection.declarations)
    (hname : name = "seller_query" ∨ name = "query") : shape = .text := by
  have htexts : ∀ declaration ∈ collection.declarations,
      declaration.name = "seller_query" ∨ declaration.name = "query" →
        declaration.shape = .text := by
    cases collection <;> decide +kernel
  exact htexts _ h hname

/-- The search box for sellers is under its name. -/
theorem option_of_sellerText {box : SellerBox} (h : .sellerText box ∈ collection.facets) :
    box.option = "seller_query" := by
  cases collection with
  | transactions =>
    simp only [facets, transactionFacets, List.mem_cons, List.not_mem_nil, reduceCtorEq, false_or,
      or_false, Facet.sellerText.injEq] at h
    rw [h]
  | messages => simp [facets, messageFacets] at h

/-- The search box for buyers is under its name. -/
theorem option_of_buyerText {box : BuyerBox} (h : .buyerText box ∈ collection.facets) :
    box.option = "query" := by
  cases collection with
  | transactions => simp [facets, transactionFacets] at h
  | messages =>
    simp only [facets, messageFacets, List.mem_cons, List.not_mem_nil, reduceCtorEq, false_or,
      or_false, Facet.buyerText.injEq] at h
    rw [h]

/-- An option is declared by a facet or is a control. -/
theorem mem_declarations_iff {declaration : Declaration} :
    declaration ∈ collection.declarations ↔
      (∃ facet ∈ collection.facets, declaration ∈ facet.declarations) ∨
        declaration ∈ Controls.declarations := by
  rw [declarations, List.mem_append, List.mem_flatMap]

/-- An option has one shape. -/
theorem shape_unique {shape' : Shape} (h : ⟨name, shape⟩ ∈ collection.declarations)
    (h' : ⟨name, shape'⟩ ∈ collection.declarations) : shape = shape' :=
  Option.some.inj ((get?_shapes_iff.mpr h).symm.trans (get?_shapes_iff.mpr h'))

/-- Only the search boxes read texts. -/
theorem searchBox_of_text (h : ⟨name, .text⟩ ∈ collection.declarations) :
    ∃ facet ∈ collection.facets, ⟨name, .text⟩ ∈ facet.declarations ∧
      ((∃ box, facet = .sellerText box) ∨ ∃ box, facet = .buyerText box) := by
  rcases mem_declarations_iff.mp h with ⟨facet, hfacet, hname⟩ | hcontrol
  · refine ⟨facet, hfacet, hname, ?_⟩
    cases facet with
    | identity source shape =>
      obtain ⟨-, rfl⟩ := Declaration.mk.inj (List.mem_singleton.mp hname)
      have hids := shape_of_identity hfacet
      simp at hids
    | sellerText box => exact Or.inl ⟨box, rfl⟩
    | buyerText box => exact Or.inr ⟨box, rfl⟩
    | _ => simp [Facet.declarations] at hname
  · simp [Controls.declarations] at hcontrol

/-- A text that is read is the one supplied. -/
theorem eq_text_of_read {text : String} (hread : Shape.read .text value = .ok (.text (some text))) :
    value = .text text := by
  have hvalue : value ≠ .null := by
    rintro rfl
    simp [Shape.inert] at hread
  rw [Shape.read_eq_ok_iff hvalue] at hread
  simpa [Shape.setting?, Supplied.text?_eq_some_iff] using hread

/-- The search box that reads an idle text ignores it. -/
theorem ignores_of_idle {text : String} (hshape : ⟨name, .text⟩ ∈ collection.declarations)
    (hidle : Text.trim text.toList = [] ∨ name = "seller_query" ∧
      ∃ inner, Text.trim text.toList = '"' :: (inner ++ ['"']) ∧
        ∀ c ∈ inner, Text.isBlank c = true) :
    ∃ facet ∈ collection.facets, ⟨name, .text⟩ ∈ facet.declarations ∧
      facet.Ignores (.text (some text)) := by
  rw [← FreeText.canonical_eq_nil_iff, ← FreeText.phrase?_canonical_eq_nil_iff] at hidle
  obtain ⟨facet, hfacet, hdeclared, hbox⟩ := searchBox_of_text hshape
  refine ⟨facet, hfacet, hdeclared, ?_⟩
  rcases hbox with ⟨box, rfl⟩ | ⟨box, rfl⟩
  · exact .seller (hidle.imp_right And.right)
  · rcases hidle with hempty | ⟨hname, -⟩
    · exact .buyer hempty
    · obtain ⟨rfl, -⟩ := Declaration.mk.inj (List.mem_singleton.mp hdeclared)
      rw [option_of_buyerText hfacet] at hname
      exact absurd hname (by decide)

/-- A text that a search box ignores is inert. -/
theorem inert_of_ignores {facet : Facet} (hfacet : facet ∈ collection.facets)
    (hdeclared : ⟨name, shape⟩ ∈ facet.declarations) (hread : shape.read value = .ok setting)
    (hignores : facet.Ignores setting) : collection.Inert name value := by
  cases hignores with
  | @seller box text hidle =>
    obtain ⟨rfl, rfl⟩ := Declaration.mk.inj (List.mem_singleton.mp hdeclared)
    obtain rfl := eq_text_of_read hread
    have hname := option_of_sellerText hfacet
    rcases hidle with hempty | hphrase
    · exact .blankText (Or.inl hname) ((FreeText.canonical_eq_nil_iff text).mp hempty)
    · obtain ⟨inner, htext, hblank⟩ := (FreeText.phrase?_canonical_eq_nil_iff text).mp hphrase
      exact .blankPhrase hname htext hblank
  | @buyer box text hempty =>
    obtain ⟨rfl, rfl⟩ := Declaration.mk.inj (List.mem_singleton.mp hdeclared)
    obtain rfl := eq_text_of_read hread
    have hname := option_of_buyerText hfacet
    exact .blankText (Or.inr hname) ((FreeText.canonical_eq_nil_iff text).mp hempty)

/-- A value is inert exactly if its setting is, or if it is a text that a search box ignores. -/
theorem inert_iff (hshape : ⟨name, shape⟩ ∈ collection.declarations)
    (hread : shape.read value = .ok setting) :
    collection.Inert name value ↔
      setting = shape.inert ∨ ∃ facet ∈ collection.facets,
        ⟨name, shape⟩ ∈ facet.declarations ∧ facet.Ignores setting := by
  constructor
  · intro h
    cases h with
    | @setsNothing other _ hother hnothing =>
      obtain rfl : other = shape := shape_unique hother hshape
      have hinert := Shape.read_eq_inert_iff.mpr hnothing
      exact Or.inl (Except.ok.inj (hread.symm.trans hinert))
    | blankText hname hblank =>
      obtain rfl := shape_of_searchBox hshape hname
      obtain rfl := Except.ok.inj hread
      exact Or.inr (ignores_of_idle hshape (Or.inl hblank))
    | @blankPhrase text inner hname htext hblank =>
      obtain rfl := shape_of_searchBox hshape (Or.inl hname)
      obtain rfl := Except.ok.inj hread
      exact Or.inr (ignores_of_idle hshape (Or.inr ⟨hname, inner, htext, hblank⟩))
  · rintro (rfl | ⟨facet, hfacet, hdeclared, hignores⟩)
    · exact .setsNothing hshape (Shape.read_eq_inert_iff.mp hread)
    · exact inert_of_ignores hfacet hdeclared hread hignores

/-! ### Requests without an option -/

variable {configuration : Configuration} {a b : Settings}

/-- An inert setting or an ignored text can be set back without a trace. -/
theorem request_eq_of_inert (h : a.Resets b name shape setting)
    (hinert : setting = shape.inert ∨ ∃ facet ∈ collection.facets,
      ⟨name, shape⟩ ∈ facet.declarations ∧ facet.Ignores setting) :
    collection.request configuration b = collection.request configuration a := by
  rcases hinert with hinert | ⟨facet, hfacet, hdeclared, hignores⟩
  · rw [h.eq_of_inert hinert]
  · have hoff := Facet.agree_outside hdeclared h.agree
    exact (request_eq_of_contribution hfacet hoff
      (Facet.contribution_eq_of_ignores h hdeclared hignores)).symm

/-- If nothing is lost when an option is set back, it was inert or a search box ignored it. -/
theorem inert_of_request_same (h : a.Resets b name shape setting)
    (hshape : ⟨name, shape⟩ ∈ collection.declarations)
    (hsame : (collection.request configuration b).Same (collection.request configuration a)) :
    setting = shape.inert ∨ ∃ facet ∈ collection.facets,
      ⟨name, shape⟩ ∈ facet.declarations ∧ facet.Ignores setting := by
  rcases mem_declarations_iff.mp hshape with ⟨facet, hfacet, hdeclared⟩ | hcontrol
  · have hoff := Facet.agree_outside hdeclared h.agree
    obtain ⟨earlier, later, hquery, hquery'⟩ := query_split hfacet configuration hoff
    have htotal := BooleanQuery.conditions_eq_of_same _ _ hsame.query
    have hconditions : (facet.contribution a configuration).conditions =
        (facet.contribution b configuration).conditions := by
      simp only [request, hquery, hquery', BooleanQuery.conditions_append] at htotal
      omega
    have hidentity : ∀ source shape, facet = .identity source shape →
        shape = .reference ∨ shape = .references := by
      rintro source shape rfl
      exact shape_of_identity hfacet
    rcases Facet.inert_or_ignores_of_conditions h hdeclared hidentity hconditions with
      hinert | hignores
    · exact Or.inl hinert
    · exact Or.inr ⟨facet, hfacet, hdeclared, hignores⟩
  · exact Or.inl (Controls.inert_of_same h hcontrol hsame.controls)

/-- What is left of an accepted option set without one of its options is accepted too. -/
theorem settings_erase {options : OptionSet} (h : collection.schema.settings options = .ok a)
    (hvalue : options.get? name = some value) :
    ∃ b shape setting, collection.schema.settings (options.erase name) = .ok b ∧
      ⟨name, shape⟩ ∈ collection.declarations ∧ shape.read value = .ok setting ∧
        a.Resets b name shape setting := by
  have htakes := Schema.exists_settings_eq_ok_iff.mp ⟨a, h⟩
  obtain ⟨b, hb⟩ : ∃ b, collection.schema.settings (options.erase name) = .ok b := by
    rw [Schema.exists_settings_eq_ok_iff]
    intro other otherValue hother
    rw [NameMap.get?_erase] at hother
    split at hother
    · simp at hother
    · exact htakes other otherValue hother
  obtain ⟨shape, hshape, htaken⟩ := htakes name value hvalue
  obtain ⟨setting, hread⟩ := Shape.exists_read_eq_ok_iff.mpr htaken
  refine ⟨b, shape, setting, hb, get?_shapes_iff.mp hshape, hread, ?_⟩
  refine ⟨?_, ?_, ?_, Shape.yields_of_read hread⟩
  · intro other hother
    apply Schema.get?_settings_congr h hb
    rw [NameMap.get?_erase, if_neg hother]
  · rw [Schema.get?_settings h, hshape, Option.bind_some, OptionSet.value, hvalue,
      Option.getD_some, hread]
    rfl
  · rw [Schema.get?_settings hb, hshape, Option.bind_some, OptionSet.value, NameMap.get?_erase,
      if_pos rfl, Option.getD_none, Shape.read_null]
    rfl

/-- No value but null is inert for a flag, a number, a moment, a count or a document. -/
theorem not_inert_of_shape (hshape : ⟨name, shape⟩ ∈ collection.declarations)
    (hkind : shape ∈ [.flag, .number, .moment, .count, .document]) (hvalue : value ≠ .null) :
    ¬ collection.Inert name value := by
  intro h
  cases h with
  | @setsNothing other _ hother hnothing =>
    obtain rfl : other = shape := shape_unique hother hshape
    cases hnothing with
    | null => exact hvalue rfl
    | _ => simp at hkind
  | blankText hname =>
    obtain rfl := shape_of_searchBox hshape hname
    simp at hkind
  | blankPhrase hname =>
    obtain rfl := shape_of_searchBox hshape (Or.inl hname)
    simp at hkind

/-- A quoted text is not inert for buyers, whatever is between the quotes. -/
theorem not_inert_of_quoted {text : String} {inner : List Char}
    (htext : Text.trim text.toList = '"' :: (inner ++ ['"'])) :
    ¬ collection.Inert "query" (.text text) := by
  intro h
  cases h with
  | @setsNothing other _ hother hnothing =>
    obtain rfl := shape_of_searchBox hother (Or.inr rfl)
    cases hnothing
  | blankText _ hblank =>
    rw [hblank] at htext
    simp at htext
  | blankPhrase hname => exact absurd hname (by decide)

end Collection

/--
The inert options, exactly: leaving out an option of an accepted option set is accepted, and
gives an equal request if and only if its value is inert. So a flag that is false, a
number, a moment, a count, a document and a quoted text from a buyer always make a difference.
-/
theorem request_without_option_eq_iff {configuration : Configuration} {collection : Collection}
    {options : OptionSet} {request : Request} {name : String} {value : Supplied}
    (h : compile configuration collection options = .ok request)
    (hvalue : options.get? name = some value) :
    ∃ request', compile configuration collection (options.erase name) = .ok request' ∧
      (request' = request ↔ collection.Inert name value) ∧
      (request'.Same request ↔ collection.Inert name value) ∧
      (∀ shape, ⟨name, shape⟩ ∈ collection.declarations →
        shape ∈ [.flag, .number, .moment, .count, .document] → value ≠ .null →
          ¬ request'.Same request) ∧
      (∀ text inner, name = "query" → value = .text text →
        Text.trim text.toList = '"' :: (inner ++ ['"']) → ¬ request'.Same request) := by
  obtain ⟨a, ha, rfl⟩ := compile_eq_ok_iff.mp h
  obtain ⟨b, shape, setting, hb, hshape, hread, hresets⟩ := Collection.settings_erase ha hvalue
  have hkeep (hinert : collection.Inert name value) :
      collection.request configuration b = collection.request configuration a :=
    Collection.request_eq_of_inert hresets ((Collection.inert_iff hshape hread).mp hinert)
  have hlose (hsame : (collection.request configuration b).Same
      (collection.request configuration a)) : collection.Inert name value :=
    (Collection.inert_iff hshape hread).mpr
      (Collection.inert_of_request_same hresets hshape hsame)
  refine ⟨collection.request configuration b, compile_eq_ok_iff.mpr ⟨b, hb, rfl⟩, ?_, ?_, ?_, ?_⟩
  · constructor
    · intro heq
      exact hlose (heq ▸ .refl _)
    · exact hkeep
  · constructor
    · exact hlose
    · intro hinert
      exact hkeep hinert ▸ .refl _
  · intro other hother hkind hne hsame
    exact Collection.not_inert_of_shape hother hkind hne (hlose hsame)
  · rintro text inner rfl rfl htext hsame
    exact Collection.not_inert_of_quoted htext (hlose hsame)

/-- A blank phrase can be left out of a search for purchases, a flag that is false cannot. -/
theorem blank_phrase_left_out :
    ∃ (options : OptionSet) (request request' : Request),
      options = .ofList [("archived", .bool false), ("seller_query", .text " \"\u2003\" ")] ∧
      compile {} .transactions options = .ok request ∧
      compile {} .transactions (options.erase "seller_query") = .ok request ∧
      compile {} .transactions (options.erase "archived") = .ok request' ∧
      ¬ request'.Same request := by
  obtain ⟨options, hoptions⟩ : ∃ options : OptionSet,
      options = .ofList [("archived", .bool false), ("seller_query", .text " \"\u2003\" ")] :=
    ⟨_, rfl⟩
  have hflag : options.get? "archived" = some (.bool false) := by
    rw [hoptions]
    rfl
  have hphrase : options.get? "seller_query" = some (.text " \"\u2003\" ") := by
    rw [hoptions]
    rfl
  obtain ⟨request, hrequest⟩ : ∃ request, compile {} .transactions options = .ok request := by
    rw [hoptions]
    apply exists_request_ofList
    simp only [List.forall_mem_cons, List.not_mem_nil, false_imp_iff, implies_true, and_true]
    exact ⟨⟨.flag, by decide +kernel, .flag (.bool false)⟩, ⟨.text, by decide +kernel, .text _⟩⟩
  obtain ⟨without, hwithout, hequal, -⟩ := request_without_option_eq_iff hrequest hphrase
  obtain ⟨request', hrequest', -, -, hnever, -⟩ := request_without_option_eq_iff hrequest hflag
  have htrim : Text.trim " \"\u2003\" ".toList = '"' :: (['\u2003'] ++ ['"']) := by decide +kernel
  have hblank : ∀ c ∈ ['\u2003'], Text.isBlank c = true := by
    intro c hc
    rw [List.mem_singleton.mp hc]
    rfl
  have hinert : Collection.transactions.Inert "seller_query" (.text " \"\u2003\" ") :=
    .blankPhrase rfl htrim hblank
  rw [hequal.mpr hinert] at hwithout
  refine ⟨options, request, request', hoptions, hrequest, hwithout, hrequest', ?_⟩
  exact hnever .flag (by decide +kernel) (by simp) (by simp)

end FacetedSearch
