import FacetedSearch.Proofs.Compile.Independence
import FacetedSearch.Proofs.Compile.Inertness
import FacetedSearch.Proofs.Facet.Identifiers
import FacetedSearch.Proofs.Schema.Spellings
import Mathlib.Data.List.Nodup

/-!
# Lists of identifiers are sets

A request depends on the identifiers that the value of an option denotes and on nothing else in
it: neither on their order and repetitions nor on the way in which each of them is spelled. And
it depends on all of them: two values that denote different sets give different requests.
-/

namespace FacetedSearch

namespace Collection

variable {collection : Collection} {options options' : OptionSet} {a b : Settings} {name : String}
  {shape : Shape} {configuration : Configuration}

/-- A facet reads no option twice. -/
theorem nodup_options {facet : Facet} (hfacet : facet ∈ collection.facets) :
    facet.options.Nodup := by
  have hnodup := collection.nodup_names
  rw [names_eq, List.nodup_append] at hnodup
  exact (List.nodup_flatMap.mp hnodup.1).1 facet hfacet

/-- The options for identifiers belong to facets. -/
theorem facet_of_ids (hname : ⟨name, shape⟩ ∈ collection.declarations)
    (hids : shape = .reference ∨ shape = .references) :
    ∃ facet ∈ collection.facets, ⟨name, shape⟩ ∈ facet.declarations := by
  rcases mem_declarations_iff.mp hname with hfacet | hcontrol
  · exact hfacet
  · rcases hids with rfl | rfl <;> simp [Controls.declarations] at hcontrol

/-- Requests that are the same were made from the same set of identifiers. -/
theorem ids_eq_of_request_same (hname : ⟨name, shape⟩ ∈ collection.declarations)
    (hids : shape = .reference ∨ shape = .references)
    (hagree : ∀ other, other ≠ name → a.get? other = b.get? other)
    (h : (collection.request configuration a).Same (collection.request configuration b)) :
    a.ids name = b.ids name := by
  obtain ⟨facet, hfacet, hdeclared⟩ := facet_of_ids hname hids
  have hoff := Facet.agree_outside hdeclared hagree
  obtain ⟨earlier, later, hquery, hquery'⟩ := query_split hfacet configuration hoff
  have hsame := h.query
  simp only [request, hquery, hquery'] at hsame
  exact Facet.ids_eq_of_contribution hids hdeclared (nodup_options hfacet) hagree
    (BooleanQuery.sameAll_of_append hsame)

/-- Settings that agree but for one option with the same set of identifiers are equal. -/
theorem settings_eq_of_ids (ha : collection.schema.settings options = .ok a)
    (hb : collection.schema.settings options' = .ok b)
    (hname : ⟨name, shape⟩ ∈ collection.declarations)
    (hids : shape = .reference ∨ shape = .references)
    (hagree : ∀ other, other ≠ name → a.get? other = b.get? other)
    (h : a.ids name = b.ids name) : a = b := by
  have hshape := get?_shapes_iff.mpr hname
  apply Settings.ext_get?
  intro other
  by_cases hother : other = name
  · subst hother
    exact (Schema.get?_eq_ids ha hshape hids).trans
      ((congrArg (some ∘ Setting.ids) h).trans (Schema.get?_eq_ids hb hshape hids).symm)
  · exact hagree other hother

/--
Option sets that differ in one option for identifiers give the same request exactly if its
values denote the same identifiers.
-/
theorem request_eq_iff_denotes (ha : collection.schema.settings options = .ok a)
    (hb : collection.schema.settings options' = .ok b)
    (hname : ⟨name, shape⟩ ∈ collection.declarations)
    (hids : shape = .reference ∨ shape = .references)
    (hagree : options.AgreeOutside [name] options') :
    ((collection.request configuration a).Same (collection.request configuration b) ↔
        ∀ id, (options.value name).Denotes id ↔ (options'.value name).Denotes id) ∧
      (collection.request configuration a = collection.request configuration b ↔
        ∀ id, (options.value name).Denotes id ↔ (options'.value name).Denotes id) := by
  have hshape := get?_shapes_iff.mpr hname
  have hsettings : ∀ other, other ≠ name → a.get? other = b.get? other := by
    intro other hother
    exact Schema.get?_settings_congr ha hb (hagree other (mt List.mem_singleton.mp hother))
  have hdenotes (h : (collection.request configuration a).Same
      (collection.request configuration b)) :
      ∀ id, (options.value name).Denotes id ↔ (options'.value name).Denotes id := by
    intro id
    rw [← Schema.mem_ids_iff ha hshape hids, ← Schema.mem_ids_iff hb hshape hids,
      ids_eq_of_request_same hname hids hsettings h]
  have hequal (h : ∀ id, (options.value name).Denotes id ↔ (options'.value name).Denotes id) :
      collection.request configuration a = collection.request configuration b := by
    have hsets : a.ids name = b.ids name := by
      apply IdentifierSet.ext_mem
      intro id
      rw [Schema.mem_ids_iff ha hshape hids, Schema.mem_ids_iff hb hshape hids, h id]
    rw [settings_eq_of_ids ha hb hname hids hsettings hsets]
  constructor
  · exact ⟨hdenotes, fun h => hequal h ▸ .refl _⟩
  · exact ⟨fun h => hdenotes (h ▸ .refl _), hequal⟩

end Collection

/--
Lists of identifiers are sets, however they are written. All spellings of a list give the same
request, or the same error; two option sets that differ in one list give the same request
only if the lists denote the same identifiers that are not blank, and a number is never the
same as a text; and all spellings of a single identifier are interchangeable, too.
-/
theorem identifier_lists_are_sets (configuration : Configuration) (collection : Collection)
    (name : String) :
    (⟨name, .references⟩ ∈ collection.declarations →
      (∀ (options : OptionSet) (value value' : Supplied), value.Respelled value' →
        compile configuration collection (options.insert name value) =
          compile configuration collection (options.insert name value')) ∧
      (∀ (options options' : OptionSet) (request request' : Request),
        compile configuration collection options = .ok request →
        compile configuration collection options' = .ok request' →
        options.AgreeOutside [name] options' →
          (request.Same request' ↔
            ∀ id, (options.value name).Denotes id ↔ (options'.value name).Denotes id) ∧
          (request = request' ↔
            ∀ id, (options.value name).Denotes id ↔ (options'.value name).Denotes id)) ∧
      (∀ (options : OptionSet) (n : Int64) (text : String) (request request' : Request),
        compile configuration collection (options.insert name (.int n)) = .ok request →
        compile configuration collection (options.insert name (.text text)) = .ok request' →
          ¬ request.Same request')) ∧
    (⟨name, .reference⟩ ∈ collection.declarations →
      ∀ (options : OptionSet) (value value' : Supplied) (id : Identifier),
        value.Spells id → value'.Spells id →
          compile configuration collection (options.insert name value) =
            compile configuration collection (options.insert name value')) := by
  refine ⟨fun hname => ⟨?_, ?_, ?_⟩, ?_⟩
  · intro options value value' hrespelled
    exact compile_insert_congr hname (Shape.read_references_eq_of_respelled hrespelled)
  · intro options options' request request' hrequest hrequest' hagree
    obtain ⟨a, ha, rfl⟩ := compile_eq_ok_iff.mp hrequest
    obtain ⟨b, hb, rfl⟩ := compile_eq_ok_iff.mp hrequest'
    exact Collection.request_eq_iff_denotes ha hb hname (Or.inr rfl) hagree
  · intro options n text request request' hrequest hrequest' hsame
    obtain ⟨a, ha, rfl⟩ := compile_eq_ok_iff.mp hrequest
    obtain ⟨b, hb, rfl⟩ := compile_eq_ok_iff.mp hrequest'
    have hagree : OptionSet.AgreeOutside [name] (options.insert name (.int n))
        (options.insert name (.text text)) := by
      intro other hother
      have hne : other ≠ name := mt List.mem_singleton.mpr hother
      rw [NameMap.get?_insert, NameMap.get?_insert, if_neg hne, if_neg hne]
    obtain ⟨hiff, -⟩ := Collection.request_eq_iff_denotes ha hb hname (Or.inr rfl) hagree
    have hvalue (value : Supplied) : (NameMap.insert options name value).get? name = some value :=
      NameMap.get?_insert_self options name value
    have hnumber := hiff.mp hsame (.number n)
    simp only [OptionSet.value, hvalue, Option.getD_some] at hnumber
    have htext : Supplied.Denotes (.text text) (.number n) :=
      hnumber.mp (.alone rfl rfl)
    cases htext with
    | alone hid => simp [Supplied.identifier?] at hid
  · intro hname options value value' id hspells hspells'
    exact compile_insert_congr hname
      (Shape.read_reference_eq_of_spells hspells hspells')

/--
Products are excluded alike by a list with repetitions, nulls, blanks and several spellings in
it and by the two identifiers alone; the number 5 and the text 5 exclude different products. A
seller can be given by the number or as a record.
-/
theorem excluded_products_respelled :
    ∃ request number text seller : Request,
      compile {} .transactions (NameMap.ofList [("exclude_product", .list
        [.null, .text "\u2003", .reference (.raw (.text "b")), .reference (.entity (.number 3)),
          .text "b"])]) = .ok request ∧
      compile {} .transactions (NameMap.ofList [("exclude_product", .list
        [.int 3, .text "b"])]) = .ok request ∧
      compile {} .transactions (NameMap.ofList [("exclude_product", .int 5)]) = .ok number ∧
      compile {} .transactions (NameMap.ofList [("exclude_product", .text "5")]) = .ok text ∧
      ¬ number.Same text ∧
      compile {} .transactions (NameMap.ofList [("seller", .int 3)]) = .ok seller ∧
      compile {} .transactions (NameMap.ofList [("seller", .reference (.entity (.number 3)))]) =
        .ok seller := by
  have hdeclared : ⟨"exclude_product", .references⟩ ∈ Collection.transactions.declarations := by
    decide +kernel
  obtain ⟨hlists, -⟩ := identifier_lists_are_sets {} .transactions "exclude_product"
  obtain ⟨hrespelled, -, hnumber⟩ := hlists hdeclared
  have haccepted (value : Supplied) (htakes : Shape.Takes .references value) :
      ∃ request, compile {} .transactions (NameMap.ofList [("exclude_product", value)]) =
        .ok request := by
    apply exists_request_ofList
    simp only [List.forall_mem_cons, List.not_mem_nil, false_imp_iff, implies_true, and_true]
    exact ⟨.references, hdeclared, htakes⟩
  have htakes : Shape.Takes .references (.list [.int 3, .text "b"]) := by
    apply Shape.Takes.list
    simp only [List.forall_mem_cons, List.not_mem_nil, false_imp_iff, implies_true, and_true]
    exact ⟨Or.inr (.int 3), Or.inr (.text "b")⟩
  obtain ⟨request, hrequest⟩ := haccepted (.list [.int 3, .text "b"]) htakes
  obtain ⟨number, hrequestNumber⟩ := haccepted (.int 5) (.alone (.int 5))
  obtain ⟨text, hrequestText⟩ := haccepted (.text "5") (.alone (.text "5"))
  have hitems : Supplied.RespelledItems [.int 3, .text "b"]
      [.null, .text "\u2003", .reference (.raw (.text "b")), .reference (.entity (.number 3)),
        .text "b"] := by
    refine .trans (.respelled _ (.int 3) (.entity (.number 3))) ?_
    refine .trans (.repeated (List.mem_cons_of_mem _ List.mem_cons_self)) ?_
    refine .trans (.respelled _ (.text "b") (.raw (.text "b"))) ?_
    refine .trans (.null _) ?_
    exact .trans (.blank _ (.text rfl)) (.permuted (.swap _ _ _))
  have hequal := hrespelled NameMap.empty _ _ (.list hitems)
  have hseller : ⟨"seller", .reference⟩ ∈ Collection.transactions.declarations := by
    decide +kernel
  obtain ⟨-, hreference⟩ := identifier_lists_are_sets {} .transactions "seller"
  obtain ⟨seller, hrequestSeller⟩ : ∃ seller,
      compile {} .transactions (NameMap.ofList [("seller", .int 3)]) = .ok seller := by
    apply exists_request_ofList
    rw [List.forall_mem_singleton]
    exact ⟨.reference, hseller, .reference (.int 3)⟩
  have hrecord := hreference hseller NameMap.empty _ _ _ (.int 3) (.entity (.number 3))
  refine ⟨request, number, text, seller, hequal.symm.trans hrequest, hrequest, hrequestNumber,
    hrequestText, ?_, hrequestSeller, hrecord.symm.trans hrequestSeller⟩
  exact hnumber NameMap.empty 5 "5" number text hrequestNumber hrequestText

end FacetedSearch
