import FacetedSearch.Proofs.Compile.Controls
import FacetedSearch.Proofs.Facet.Bounds

/-!
# Integers of a payload

An integer of a JSON payload that fits a signed word stands in the request as it was, as the number
of results that are passed over or shown or as a bound on the price. A larger one is supplied as
a double: it is refused as a number of results, and as a bound it is rounded to the double.
-/

namespace FacetedSearch

/-- The options for the price, each with its bound. -/
def priceBounds : List (String × Bound) :=
  Facet.numericBounds "price_greater_than" "price_less_than"

/-! ### One number -/

namespace Supplied

variable {n : Int} {inRange : -9223372036854775808 ≤ n ∧ n ≤ 18446744073709551615}

/-- A natural number that fits a signed word is counted as it is. -/
theorem count?_ofJson_int (hnonneg : 0 ≤ n) (h : n ≤ 9223372036854775807) :
    (ofJson (.number (.int n inRange))).count?.map Json.ofUInt64 =
      some (.number (.int n inRange)) := by
  have hword : (Int64.ofInt n).toInt = n := Int64.toInt_ofInt_of_le (by omega) (by omega)
  have hcount : ((UInt64.ofNat n.toNat).toNat : Int) = n := by
    rw [UInt64.toNat_ofNat']
    omega
  rw [ofJson_int h, count?, hword, if_pos hnonneg]
  simp only [Option.map_some, Json.ofUInt64, Number.ofUInt64, hcount]

/-- An integer that fits a signed word is a bound as it is. -/
theorem number?_ofJson_int (h : n ≤ 9223372036854775807) :
    (ofJson (.number (.int n inRange))).number?.map Json.number =
      some (.number (.int n inRange)) := by
  have hword : (Int64.ofInt n).toInt = n := Int64.toInt_ofInt_of_le (by omega) (by omega)
  rw [ofJson_int h]
  simp only [number?, Number.ofInt64, hword, Option.map_some]

theorem isFinite_of_large (h : 9223372036854775807 < n) (h' : n ≤ 18446744073709551615) :
    (Binary64.ofInt n).IsFinite := by
  rw [Binary64.ofInt_of_nonneg (by omega)]
  exact Binary64.isFinite_ofNat (by omega)

/-- A larger integer is the bound of its double. -/
theorem number?_ofJson_large_int (h : 9223372036854775807 < n) :
    ∃ isFinite : (Binary64.ofInt n).IsFinite,
      (ofJson (.number (.int n inRange))).number?.map Json.number =
        some (.number (.float (.ofInt n) isFinite)) := by
  have hfinite := isFinite_of_large h inRange.2
  refine ⟨hfinite, ?_⟩
  rw [ofJson_large_int h, number?, Number.ofBinary64?, dif_pos hfinite]
  rfl

theorem takes_count_ofJson (hnonneg : 0 ≤ n) (h : n ≤ 9223372036854775807) :
    Shape.Takes .count (ofJson (.number (.int n inRange))) := by
  have hword : (Int64.ofInt n).toInt = n := Int64.toInt_ofInt_of_le (by omega) (by omega)
  rw [ofJson_int h]
  exact .count (by rw [hword]; exact hnonneg)

theorem takes_number_ofJson (n : Int)
    (inRange : -9223372036854775808 ≤ n ∧ n ≤ 18446744073709551615) :
    Shape.Takes .number (ofJson (.number (.int n inRange))) := by
  by_cases h : n ≤ 9223372036854775807
  · rw [ofJson_int h]
    exact .int _
  · rw [ofJson_large_int (Int.not_le.mp h)]
    exact .float (isFinite_of_large (Int.not_le.mp h) inRange.2)

end Supplied

/-! ### One option beside others that compile -/

section Erase

variable {configuration : Configuration} {collection : Collection} {options : OptionSet}
  {rest : Request} {name : String} {value : Supplied}

theorem compile_eq_error_iff {error : SearchError} :
    compile configuration collection options = .error error ↔
      collection.schema.settings options = .error error := by
  rw [compile]
  cases collection.schema.settings options <;> simp [Except.map]

/-- Without a name the other options are taken as they are with it. -/
theorem takes_of_erase (hrest : compile configuration collection (options.erase name) = .ok rest)
    {other : String} (hother : options.get? other = some value) (hne : other ≠ name) :
    collection.schema.Takes other value := by
  refine exists_request_iff.mp ⟨rest, hrest⟩ other value ?_
  rw [NameMap.get?_erase, if_neg hne, hother]

/-- An option that is taken can be added. -/
theorem exists_request_of_erase
    (hrest : compile configuration collection (options.erase name) = .ok rest)
    (hvalue : options.get? name = some value) (htakes : collection.schema.Takes name value) :
    ∃ request, compile configuration collection options = .ok request := by
  rw [exists_request_iff]
  intro other otherValue hother
  by_cases hne : other = name
  · subst hne
    obtain rfl := Option.some.inj (hvalue.symm.trans hother)
    exact htakes
  · exact takes_of_erase hrest hother hne

/-- An option that is refused beside others that are taken is the one that is reported. -/
theorem compile_eq_error_of_erase
    (hrest : compile configuration collection (options.erase name) = .ok rest)
    (hvalue : options.get? name = some value) {error : SearchError}
    (hblames : collection.schema.Blames name value error) :
    compile configuration collection options = .error error := by
  rw [compile_eq_error_iff, Schema.settings_eq_error_iff]
  refine ⟨name, value, hvalue, hblames, ?_⟩
  intro other otherValue hother hnot hne
  exact absurd (takes_of_erase hrest hother hne) hnot

/-- Options that are all declared and taken but for one can be compiled without it. -/
theorem exists_request_erase_ofList (configuration : Configuration)
    {pairs : List (String × Supplied)}
    (h : ∀ pair ∈ pairs, pair.1 ≠ name → ∃ shape : Shape,
      ⟨pair.1, shape⟩ ∈ collection.declarations ∧ shape.Takes pair.2) :
    ∃ rest, compile configuration collection ((NameMap.ofList pairs).erase name) = .ok rest := by
  rw [exists_request_iff]
  intro other value hvalue
  rw [NameMap.get?_erase] at hvalue
  split at hvalue
  · simp at hvalue
  · next hne =>
    obtain ⟨before, after, rfl, -⟩ := NameMap.get?_ofList_eq_some_iff.mp hvalue
    obtain ⟨shape, hdeclared, htakes⟩ := h (other, value) (by simp) hne
    exact ⟨shape, Collection.get?_shapes_iff.mpr hdeclared, htakes⟩

end Erase

/-! ### Bounds on the price -/

namespace Collection

/-- Purchases have the only range of numbers, that of the price. -/
theorem eq_of_numericRange {collection : Collection} {field greaterThan lessThan : String}
    (h : .numericRange field greaterThan lessThan ∈ collection.facets) :
    field = "price_cents" ∧ Facet.numericBounds greaterThan lessThan = priceBounds := by
  cases collection with
  | transactions =>
    simp only [facets, transactionFacets, List.mem_cons, reduceCtorEq, false_or, or_false,
      Facet.numericRange.injEq, List.not_mem_nil] at h
    obtain ⟨rfl, rfl, rfl⟩ := h
    exact ⟨rfl, rfl⟩
  | messages => simp [facets, messageFacets] at h

/-- Only purchases have options that are numbers. -/
theorem eq_transactions_of_number {collection : Collection} {name : String}
    (h : ⟨name, .number⟩ ∈ collection.declarations) : collection = .transactions := by
  cases collection with
  | transactions => rfl
  | messages =>
    have hnone : ∀ declaration ∈ Collection.messages.declarations,
        declaration.shape ≠ .number := by decide
    exact absurd rfl (hnone _ h)

/-- The price is in no range of moments. -/
theorem field_ne_of_dateRange {collection : Collection}
    {field after onOrAfter before onOrBefore : String}
    (h : .dateRange field after onOrAfter before onOrBefore ∈ collection.facets) :
    field ≠ "price_cents" := by
  rintro rfl
  cases collection <;> simp [facets, transactionFacets, messageFacets] at h

end Collection

/-- The bounds on the price in a request are those supplied. -/
theorem price_mem_filter_iff {configuration : Configuration} {options : OptionSet}
    {request : Request} (h : compile configuration .transactions options = .ok request)
    {name : String} {bound : Bound} (hbound : (name, bound) ∈ priceBounds) {value : Json} :
    .range "price_cents" bound value ∈ request.query.filter ↔
      (options.value name).number?.map .number = some value := by
  obtain ⟨settings, hsettings, rfl⟩ := compile_eq_ok_iff.mp h
  have hfacet : Facet.numericRange "price_cents" "price_greater_than" "price_less_than" ∈
      Collection.transactions.facets := by
    simp [Collection.facets, transactionFacets]
  have hdeclared : ⟨name, .number⟩ ∈
      (Facet.numericRange "price_cents" "price_greater_than" "price_less_than").declarations :=
    List.mem_map.mpr ⟨(name, bound), hbound, rfl⟩
  rw [← Schema.number_eq hsettings (Collection.get?_shapes_of_facet hfacet hdeclared)]
  change Clause.range "price_cents" bound value ∈
    (Collection.query .transactions configuration settings).clauses .filter ↔ _
  rw [Collection.mem_clauses_query_iff]
  constructor
  · rintro ⟨facet, hmem, hclause⟩
    rcases Facet.range_mem_contribution_iff.mp hclause with
      ⟨_, _, other, rfl, hother, hvalue⟩ | ⟨_, _, _, _, _, rfl, -, -⟩
    · rw [(Collection.eq_of_numericRange hmem).2] at hother
      have hsame : ∀ a ∈ priceBounds, ∀ b ∈ priceBounds, a.2 = b.2 → a = b := by decide
      obtain ⟨rfl, -⟩ := Prod.mk.inj (hsame _ hother _ hbound rfl)
      exact hvalue
    · exact absurd rfl (Collection.field_ne_of_dateRange hmem)
  · intro hvalue
    exact ⟨_, hfacet, Facet.range_mem_contribution_iff.mpr (.inl ⟨_, _, name, rfl, hbound, hvalue⟩)⟩

/--
Let a payload hold an integer under one name and compile without it. If the name is one of paging
and the integer is not negative, then it stands in the body as it is if it fits a signed word, and
is refused as a double otherwise. If the name is one of the bounds on the price, then the payload
compiles, and the one value of the bound is the integer if it fits a signed word, and
the nearest double otherwise.
-/
theorem payload_integers_kept_iff (configuration : Configuration) (collection : Collection)
    {members : List (String × Json)} {name : String} {n : Int}
    {inRange : -9223372036854775808 ≤ n ∧ n ≤ 18446744073709551615}
    (hmember : (NameMap.ofList members).get? name = some (.number (.int n inRange))) :
    ∃ options, OptionSet.ofJson (.object members) = .ok options ∧
      ∀ rest, compile configuration collection (options.erase name) = .ok rest →
        (∀ key, (name, key) ∈ pagingMembers → 0 ≤ n →
          (n ≤ 9223372036854775807 → ∃ request,
            compile configuration collection options = .ok request ∧
              request.body.member? key = some (.number (.int n inRange))) ∧
          (9223372036854775807 < n → compile configuration collection options =
            .error (.refused name (.mismatch .count .float)))) ∧
        ∀ bound, (name, bound) ∈ priceBounds → ⟨name, .number⟩ ∈ collection.declarations →
          ∃ request, compile configuration collection options = .ok request ∧
            (n ≤ 9223372036854775807 → ∀ value,
              .range "price_cents" bound value ∈ request.query.filter ↔
                value = .number (.int n inRange)) ∧
            (9223372036854775807 < n → ∃ isFinite : (Binary64.ofInt n).IsFinite, ∀ value,
              .range "price_cents" bound value ∈ request.query.filter ↔
                value = .number (.float (.ofInt n) isFinite)) := by
  have hvalue : (NameMap.ofList (members.map fun member =>
      (member.1, Supplied.ofJson member.2))).get? name =
        some (.ofJson (.number (.int n inRange))) := by
    rw [NameMap.ofList_map, NameMap.get?_map, hmember]
    rfl
  refine ⟨_, rfl, fun rest hrest => ⟨fun key hkey hnonneg => ?_, fun bound hbound hdeclared => ?_⟩⟩
  · have hshape := collection.get?_shapes_of_paging hkey
    refine ⟨fun hsmall => ?_, fun hlarge => ?_⟩
    · have htakes : Shape.Takes .count (.ofJson (.number (.int n inRange))) :=
        Supplied.takes_count_ofJson hnonneg hsmall
      obtain ⟨request, hrequest⟩ := exists_request_of_erase hrest hvalue ⟨.count, hshape, htakes⟩
      refine ⟨request, hrequest, ?_⟩
      rw [member?_body_of_count hrequest hkey, OptionSet.value, hvalue, Option.getD_some,
        Supplied.count?_ofJson_int hnonneg hsmall]
    · apply compile_eq_error_of_erase hrest hvalue
      rw [Supplied.ofJson_large_int hlarge]
      exact .mismatch hshape (by simp) (by rintro ⟨⟩)
  · have hcollection := Collection.eq_transactions_of_number hdeclared
    subst hcollection
    have htakes := Supplied.takes_number_ofJson n inRange
    obtain ⟨request, hrequest⟩ := exists_request_of_erase hrest hvalue
      ⟨.number, Collection.get?_shapes_iff.mpr hdeclared, htakes⟩
    have hrange (value : Json) : .range "price_cents" bound value ∈ request.query.filter ↔
        (Supplied.ofJson (.number (.int n inRange))).number?.map .number = some value := by
      rw [price_mem_filter_iff hrequest hbound, OptionSet.value, hvalue, Option.getD_some]
    refine ⟨request, hrequest, fun hsmall value => ?_, fun hlarge => ?_⟩
    · rw [hrange, Supplied.number?_ofJson_int hsmall, Option.some.injEq, eq_comm]
    · obtain ⟨hfinite, hnumber⟩ := @Supplied.number?_ofJson_large_int n inRange hlarge
      refine ⟨hfinite, fun value => ?_⟩
      rw [hrange, hnumber, Option.some.injEq, eq_comm]

/-- The greatest signed word is kept as a limit, beside a bound on the price that is rounded. -/
theorem greatest_word_kept_as_limit :
    let limit := Json.ofUInt64 9223372036854775807
    let price := Json.ofUInt64 9223372036854775809
    ∃ (options : OptionSet) (request : Request),
      OptionSet.ofJson (.object [("limit", limit), ("price_less_than", price)]) = .ok options ∧
      compile {} .transactions options = .ok request ∧
      request.body.member? "size" = some limit ∧
      .range "price_cents" .below price ∉ request.query.filter := by
  intro limit price
  let members : List (String × Json) := [("limit", limit), ("price_less_than", price)]
  have hget {name : String} {value : Json} (h : (name, value) ∈ members) :
      (NameMap.ofList members).get? name = some value :=
    (NameMap.get?_ofList_of_nodup (by decide)).mpr h
  have hrest (name : String) : ∃ rest, compile {} .transactions ((NameMap.ofList
      [("limit", .ofJson limit), ("price_less_than", .ofJson price)]).erase name) = .ok rest := by
    apply exists_request_erase_ofList
    simp only [List.forall_mem_cons, List.not_mem_nil, false_imp_iff, implies_true, and_true]
    exact ⟨fun _ => ⟨.count, by decide, Supplied.takes_count_ofJson (by decide) (by decide)⟩,
      fun _ => ⟨.number, by decide, Supplied.takes_number_ofJson _ _⟩⟩
  obtain ⟨options, hoptions, hlimit⟩ :=
    payload_integers_kept_iff {} .transactions (hget (List.mem_cons_self))
  obtain ⟨options', hoptions', hprice⟩ :=
    payload_integers_kept_iff {} .transactions (hget (List.mem_cons_of_mem _ List.mem_cons_self))
  obtain rfl := Except.ok.inj hoptions
  obtain rfl := Except.ok.inj hoptions'
  obtain ⟨rest, hrestLimit⟩ := hrest "limit"
  obtain ⟨rest', hrestPrice⟩ := hrest "price_less_than"
  obtain ⟨request, hrequest, hsize⟩ :=
    ((hlimit rest hrestLimit).1 "size" (by decide) (by decide)).1 (by decide)
  obtain ⟨request', hrequest', -, hrounded⟩ :=
    (hprice rest' hrestPrice).2 .below (by decide) (by decide)
  obtain rfl := Except.ok.inj (hrequest.symm.trans hrequest')
  obtain ⟨hfinite, hrange⟩ := hrounded (by decide)
  refine ⟨_, request, rfl, hrequest, hsize, ?_⟩
  rw [hrange]
  simp [price, Json.ofUInt64, Number.ofUInt64]

/--
One more than the greatest signed word is refused as an offset, and as a bound on the price the next
integer becomes the double of this one.
-/
theorem large_integers_changed :
    (∃ options, OptionSet.ofJson (.object [("offset", .ofUInt64 9223372036854775808)]) =
        .ok options ∧
      compile {} .messages options = .error (.refused "offset" (.mismatch .count .float))) ∧
    ∃ (options : OptionSet) (request : Request),
      OptionSet.ofJson (.object [("price_less_than", .ofUInt64 9223372036854775809)]) =
        .ok options ∧
      compile {} .transactions options = .ok request ∧
      .range "price_cents" .below (.ofUInt64 9223372036854775809) ∉ request.query.filter ∧
      .range "price_cents" .below (.number (.float ⟨0x43E0000000000000⟩ (by decide))) ∈
        request.query.filter := by
  have hget {name : String} {value : Supplied} :
      (NameMap.ofList [(name, value)]).get? name = some value :=
    (NameMap.get?_ofList_of_nodup (by simp)).mpr (by simp)
  have hrest (collection : Collection) (name : String) (value : Supplied) : ∃ rest,
      compile {} collection ((NameMap.ofList [(name, value)]).erase name) = .ok rest := by
    apply exists_request_erase_ofList
    simp
  constructor
  · obtain ⟨rest, hrest⟩ := hrest .messages "offset" (.ofJson (.ofUInt64 9223372036854775808))
    refine ⟨_, rfl, compile_eq_error_of_erase hrest hget ?_⟩
    have hlarge : Supplied.ofJson (.ofUInt64 9223372036854775808) = .float (.ofInt _) :=
      Supplied.ofJson_large_int (by decide)
    have hshape : Collection.messages.schema.shapes.get? ("offset", "from").1 = some .count :=
      Collection.messages.get?_shapes_of_paging (by decide)
    rw [hlarge]
    exact .mismatch hshape (by simp) (by rintro ⟨⟩)
  · obtain ⟨rest, hrest⟩ :=
      hrest .transactions "price_less_than" (.ofJson (.ofUInt64 9223372036854775809))
    have hshape : Collection.transactions.schema.shapes.get? "price_less_than" = some .number :=
      Collection.get?_shapes_iff.mpr (by decide)
    obtain ⟨request, hrequest⟩ := exists_request_of_erase hrest hget
      ⟨.number, hshape, Supplied.takes_number_ofJson _ _⟩
    have hbound : ("price_less_than", Bound.below) ∈ priceBounds := by decide
    obtain ⟨hfinite, hnumber⟩ : ∃ isFinite : (Binary64.ofInt 9223372036854775809).IsFinite,
        (Supplied.ofJson (.ofUInt64 9223372036854775809)).number?.map Json.number =
          some (.number (.float (.ofInt 9223372036854775809) isFinite)) :=
      Supplied.number?_ofJson_large_int (by decide)
    have hbits : Binary64.ofInt 9223372036854775809 = ⟨0x43E0000000000000⟩ := by decide
    refine ⟨_, request, rfl, hrequest, ?_, ?_⟩
    · rw [price_mem_filter_iff hrequest hbound, OptionSet.value, hget, Option.getD_some, hnumber]
      simp [Json.ofUInt64, Number.ofUInt64]
    · rw [price_mem_filter_iff hrequest hbound, OptionSet.value, hget, Option.getD_some, hnumber]
      simp [hbits]

end FacetedSearch
