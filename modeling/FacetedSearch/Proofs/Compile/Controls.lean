import FacetedSearch.Proofs.Compile.Documents

/-!
# Controls in bodies

Every control has a member of its own in the body of a request, and the member is there exactly if
the option has a value other than null. Some values are null in JSON only: the document null, and
the doubles that are not finite. These are told apart from null when the options are read, so they
stand in the body, as null.
-/

namespace FacetedSearch

/-- The options for paging, each with the name of its member of the body. -/
def pagingMembers : List (String × String) := [("offset", "from"), ("limit", "size")]

/-- The options for the controls, each with the name of its member of the body. -/
def controlMembers : List (String × String) :=
  pagingMembers ++ ("track_total_hits", "track_total_hits") :: documentMembers

/-- A value other than null that is null in JSON. -/
inductive Supplied.IsHiddenNull : Supplied → Prop
  | document : IsHiddenNull (.document .null)
  | float {x : Binary64} (h : ¬ x.IsFinite) : IsHiddenNull (.float x)

namespace Supplied

/-- A value is null in JSON if it is null, openly or not. -/
theorem toJson_eq_null_iff (value : Supplied) :
    value.toJson = .null ↔ value = .null ∨ value.IsHiddenNull := by
  constructor
  · intro h
    cases value with
    | null => exact .inl rfl
    | document value =>
      obtain rfl : value = .null := h
      exact .inr .document
    | float x =>
      refine .inr (.float fun hfinite => ?_)
      simp [toJson, Json.ofBinary64, Number.ofBinary64?, hfinite] at h
    | reference value =>
      rw [toJson] at h
      cases hid : value.identifier <;> simp [hid, Identifier.toJson, Json.ofInt64] at h
    | _ => simp [toJson, Json.ofInt64] at h
  · rintro (rfl | hhidden)
    · rfl
    · cases hhidden with
      | document => rfl
      | float hinfinite => simp [toJson, Json.ofBinary64, Number.ofBinary64?, hinfinite]

theorem IsHiddenNull.ne_null {value : Supplied} (h : value.IsHiddenNull) : value ≠ .null := by
  rintro rfl
  cases h

/-- Only documents may hide a null. -/
theorem IsHiddenNull.shape_eq {value : Supplied} (h : value.IsHiddenNull) {shape : Shape}
    (htakes : shape.Takes value) : shape = .document := by
  cases h with
  | document =>
    cases htakes with
    | reference hid => cases hid
    | alone hid => cases hid
    | flag hsays => cases hsays
    | switch hsays => cases hsays
    | document => rfl
  | float hinfinite =>
    cases htakes with
    | reference hid => cases hid
    | alone hid => cases hid
    | flag hsays => cases hsays
    | switch hsays => cases hsays
    | float hfinite => exact absurd hfinite hinfinite
    | document => rfl

/-- Exactly null has no count, among the values that a count may have. -/
theorem count?_eq_none_iff {value : Supplied} (h : Shape.Takes .count value) :
    value.count? = none ↔ value = .null := by
  cases h with
  | null => simp [count?]
  | count hcount => simp [count?, hcount]

/-- Exactly null says nothing, among the values that a flag may have. -/
theorem truth?_eq_none_iff {value : Supplied} (h : Shape.Takes .flag value) :
    value.truth? = none ↔ value = .null := by
  cases h with
  | null => simp [truth?]
  | flag hsays =>
    refine iff_of_false ?_ ?_
    · simp [truth?_eq_some_iff.mpr hsays]
    · rintro rfl
      cases hsays

end Supplied

namespace Request

/-- Beside the query the body has members for the controls only. -/
theorem isSome_member?_body {request : Request} {name : String}
    (h : (request.body.member? name).isSome = true) :
    name = "query" ∨ ∃ slot ∈ controlMembers, name = slot.2 := by
  by_cases hquery : name = "query"
  · exact .inl hquery
  · refine .inr ?_
    apply Classical.byContradiction
    intro hnone
    simp only [controlMembers, pagingMembers, documentMembers, List.cons_append, List.nil_append,
      List.exists_mem_cons_iff, List.not_mem_nil,
      false_and, exists_false, or_false, not_or] at hnone
    obtain ⟨hfrom, hsize, htotal, hsort, hsource, haggs⟩ := hnone
    simp [member?_body, hquery, hfrom, hsize, htotal, hsort, hsource, haggs] at h

end Request

section Controls

variable {configuration : Configuration} {collection : Collection} {options : OptionSet}
  {request : Request}

/-- An option of a collection that is compiled has a value of its shape. -/
theorem takes_of_compile (h : compile configuration collection options = .ok request)
    {name : String} {shape : Shape} (hshape : collection.schema.shapes.get? name = some shape) :
    shape.Takes (options.value name) := by
  cases hvalue : options.get? name with
  | none =>
    rw [OptionSet.value, hvalue]
    exact .null shape
  | some value =>
    obtain ⟨found, hfound, htakes⟩ := exists_request_iff.mp ⟨request, h⟩ name value hvalue
    obtain rfl := Option.some.inj (hshape.symm.trans hfound)
    rw [OptionSet.value, hvalue]
    exact htakes

/-- The options for paging are counts in every collection. -/
theorem Collection.get?_shapes_of_paging (collection : Collection) {slot : String × String}
    (hslot : slot ∈ pagingMembers) : collection.schema.shapes.get? slot.1 = some .count := by
  have hcontrol : ∀ slot ∈ pagingMembers, ⟨slot.1, .count⟩ ∈ Controls.declarations := by decide
  exact get?_shapes_iff.mpr (collection.mem_declarations_of_control (hcontrol slot hslot))

/-- A count stands in the body under its own name, if there is one. -/
theorem member?_body_of_count (h : compile configuration collection options = .ok request)
    {slot : String × String} (hslot : slot ∈ pagingMembers) :
    request.body.member? slot.2 = (options.value slot.1).count?.map .ofUInt64 := by
  obtain ⟨settings, hsettings, rfl⟩ := compile_eq_ok_iff.mp h
  rw [← Schema.count_eq hsettings (collection.get?_shapes_of_paging hslot), Request.member?_body]
  simp only [pagingMembers, List.mem_cons, List.not_mem_nil, or_false] at hslot
  rcases hslot with rfl | rfl <;> rfl

/-- What is said about the total is a flag in every collection. -/
theorem Collection.get?_shapes_of_total (collection : Collection) :
    collection.schema.shapes.get? "track_total_hits" = some .flag := by
  have hcontrol : ⟨"track_total_hits", .flag⟩ ∈ Controls.declarations := by decide
  exact get?_shapes_iff.mpr (collection.mem_declarations_of_control hcontrol)

/-- What is said about the total stands in the body, if anything is. -/
theorem member?_body_of_total (h : compile configuration collection options = .ok request) :
    request.body.member? "track_total_hits" =
      (options.value "track_total_hits").truth?.map .bool := by
  obtain ⟨settings, hsettings, rfl⟩ := compile_eq_ok_iff.mp h
  rw [← Schema.flag_eq hsettings collection.get?_shapes_of_total, Request.member?_body]
  rfl

/-- What stands in the body for a control: a count, a truth value or a document. -/
theorem member?_body_of_control (h : compile configuration collection options = .ok request)
    {slot : String × String} (hslot : slot ∈ controlMembers) :
    (Shape.Takes .count (options.value slot.1) ∧
      request.body.member? slot.2 = (options.value slot.1).count?.map .ofUInt64) ∨
    (Shape.Takes .flag (options.value slot.1) ∧
      request.body.member? slot.2 = (options.value slot.1).truth?.map .bool) ∨
    (slot ∈ documentMembers ∧
      request.body.member? slot.2 = if (options.value slot.1).isNull then none
        else some (options.value slot.1).toJson) := by
  rcases List.mem_append.mp hslot with hpaging | hothers
  · exact .inl ⟨takes_of_compile h (collection.get?_shapes_of_paging hpaging),
      member?_body_of_count h hpaging⟩
  · rcases List.mem_cons.mp hothers with rfl | hdocument
    · exact .inr (.inl
        ⟨takes_of_compile h collection.get?_shapes_of_total, member?_body_of_total h⟩)
    · exact .inr (.inr ⟨hdocument, member?_body_of_document h hdocument⟩)

/-- The member of a control is missing exactly if the value of the option is null. -/
theorem member?_body_eq_none_iff (h : compile configuration collection options = .ok request)
    {slot : String × String} (hslot : slot ∈ controlMembers) :
    request.body.member? slot.2 = none ↔ options.value slot.1 = .null := by
  rcases member?_body_of_control h hslot with
    ⟨htakes, hmember⟩ | ⟨htakes, hmember⟩ | ⟨-, hmember⟩
  · rw [hmember, Option.map_eq_none_iff, Supplied.count?_eq_none_iff htakes]
  · rw [hmember, Option.map_eq_none_iff, Supplied.truth?_eq_none_iff htakes]
  · rw [hmember, ← Supplied.isNull_iff]
    cases (options.value slot.1).isNull <;> simp

/-- The member of a control is null exactly if it is a document that hides a null. -/
theorem member?_body_eq_null_iff (h : compile configuration collection options = .ok request)
    {slot : String × String} (hslot : slot ∈ controlMembers) :
    request.body.member? slot.2 = some .null ↔ (options.value slot.1).IsHiddenNull := by
  rcases member?_body_of_control h hslot with
    ⟨htakes, hmember⟩ | ⟨htakes, hmember⟩ | ⟨-, hmember⟩
  · rw [hmember]
    exact iff_of_false (by simp [Json.ofUInt64]) fun hhidden =>
      absurd (hhidden.shape_eq htakes) (by decide)
  · rw [hmember]
    exact iff_of_false (by simp) fun hhidden =>
      absurd (hhidden.shape_eq htakes) (by decide)
  · rw [hmember]
    by_cases hnull : options.value slot.1 = .null
    · have hopen : ¬ (options.value slot.1).IsHiddenNull := fun hhidden => hhidden.ne_null hnull
      simp [hnull, Supplied.isNull, hnull ▸ hopen]
    · rw [if_neg (mt (Supplied.isNull_iff _).mp hnull), Option.some.injEq,
        Supplied.toJson_eq_null_iff, or_iff_right hnull]

end Controls

/--
The body of a request has the member of a control exactly if the option was supplied with a value
other than null, and the member is null exactly if that value is the document null or a double that
is not finite. So the body leaves out what is null in JSON exactly if no such value was supplied,
and such a value is always one of the documents. Beside the controls there is only the query.
-/
theorem controls_copied_iff {configuration : Configuration} {collection : Collection}
    {options : OptionSet} {request : Request}
    (h : compile configuration collection options = .ok request) :
    (∀ slot ∈ controlMembers,
      ((request.body.member? slot.2).isSome = true ↔
        ∃ value, options.get? slot.1 = some value ∧ value ≠ .null) ∧
      (request.body.member? slot.2 = some .null ↔
        ∃ value, options.get? slot.1 = some value ∧ value.IsHiddenNull) ∧
      (((request.body.member? slot.2).isSome = true ↔
          ∃ value, options.get? slot.1 = some value ∧ value.toJson ≠ .null) ↔
        ∀ value, options.get? slot.1 = some value → ¬ value.IsHiddenNull) ∧
      (slot ∉ documentMembers → ∀ value, options.get? slot.1 = some value →
        ¬ value.IsHiddenNull)) ∧
    (request.body.member? "query").isSome = true ∧
    ∀ name, (request.body.member? name).isSome = true →
      name = "query" ∨ ∃ slot ∈ controlMembers, name = slot.2 := by
  refine ⟨fun slot hslot => ?_, by simp [Request.member?_body], fun name =>
    Request.isSome_member?_body⟩
  have hnone := member?_body_eq_none_iff h hslot
  have hnull := member?_body_eq_null_iff h hslot
  have hdocument : slot ∉ documentMembers → ¬ (options.value slot.1).IsHiddenNull := by
    intro hslot' hhidden
    rcases member?_body_of_control h hslot with ⟨htakes, -⟩ | ⟨htakes, -⟩ | ⟨hmem, -⟩
    · exact absurd (hhidden.shape_eq htakes) (by decide)
    · exact absurd (hhidden.shape_eq htakes) (by decide)
    · exact hslot' hmem
  rw [← Option.ne_none_iff_isSome, Ne, hnone, hnull]
  cases hvalue : options.get? slot.1 with
  | none =>
    have hopen : ¬ Supplied.null.IsHiddenNull := fun hhidden => hhidden.ne_null rfl
    simp [OptionSet.value, hvalue, hopen]
  | some value =>
    have hopen : value.IsHiddenNull → value ≠ .null := Supplied.IsHiddenNull.ne_null
    simp only [OptionSet.value, hvalue, Option.getD_some, Option.some.injEq, exists_eq_left',
      forall_eq', true_and, Ne, Supplied.toJson_eq_null_iff] at hdocument ⊢
    refine ⟨?_, hdocument⟩
    by_cases hhidden : value.IsHiddenNull
    · simp [hhidden, hopen hhidden]
    · simp [hhidden]

/-- A limit is copied and a missing offset is not; fields that are no number stand there as null. -/
theorem limit_copied_beside_null_fields :
    ∃ request : Request,
      compile {} .messages (NameMap.ofList
        [("fields", .float ⟨0x7FF8000000000000⟩), ("limit", .int 5), ("sort", .null)]) =
          .ok request ∧
      (request.body.member? "size").isSome = true ∧ request.body.member? "size" ≠ some .null ∧
      request.body.member? "from" = none ∧ request.body.member? "sort" = none ∧
      request.body.member? "_source" = some .null := by
  let pairs : List (String × Supplied) :=
    [("fields", .float ⟨0x7FF8000000000000⟩), ("limit", .int 5), ("sort", .null)]
  obtain ⟨request, hrequest⟩ :
      ∃ request, compile {} .messages (NameMap.ofList pairs) = .ok request := by
    apply exists_request_ofList
    simp only [pairs, List.forall_mem_cons, List.not_mem_nil, false_imp_iff, implies_true, and_true]
    exact ⟨⟨.document, by decide, .document _⟩,
      ⟨.count, by decide, .count (by decide)⟩, .document, by decide, .null _⟩
  have hget {name : String} {value : Supplied} :
      (NameMap.ofList pairs).get? name = some value ↔ (name, value) ∈ pairs :=
    NameMap.get?_ofList_of_nodup (by decide)
  obtain ⟨hslots, -, -⟩ := controls_copied_iff hrequest
  have hmissing (slot : String × String) (hslot : slot ∈ controlMembers)
      (hnull : ∀ value, (slot.1, value) ∈ pairs → value = .null) :
      request.body.member? slot.2 = none := by
    rw [← Option.not_isSome_iff_eq_none, (hslots slot hslot).1]
    rintro ⟨value, hvalue, hne⟩
    exact hne (hnull value (hget.mp hvalue))
  obtain ⟨hsupplied, hnull, -, hopen⟩ := hslots ("limit", "size") (by decide)
  refine ⟨request, hrequest, ?_, ?_, ?_, ?_, ?_⟩
  · exact hsupplied.mpr ⟨.int 5, hget.mpr (by simp [pairs]), nofun⟩
  · intro hmember
    obtain ⟨value, hvalue, hhidden⟩ := hnull.mp hmember
    exact hopen (by decide) value hvalue hhidden
  · exact hmissing ("offset", "from") (by decide) (by simp [pairs])
  · exact hmissing ("sort", "sort") (by decide) (by simp [pairs])
  · have hinfinite : ¬ Binary64.IsFinite ⟨0x7FF8000000000000⟩ := by decide
    exact (hslots ("fields", "_source") (by decide)).2.1.mpr
      ⟨_, hget.mpr (by simp [pairs]), .float hinfinite⟩

/-- A sort order that is null in JSON is copied, and stands in the body as null. -/
theorem null_document_copied :
    ∃ request : Request,
      compile {} .messages (NameMap.ofList [("sort", .document .null)]) = .ok request ∧
      (Supplied.document .null).toJson = .null ∧
      (request.body.member? "sort").isSome = true ∧ request.body.member? "sort" = some .null := by
  obtain ⟨request, hrequest⟩ : ∃ request,
      compile {} .messages (NameMap.ofList [("sort", .document .null)]) = .ok request := by
    apply exists_request_ofList
    rw [List.forall_mem_singleton]
    exact ⟨.document, by decide, .document _⟩
  have hslot : ("sort", "sort") ∈ controlMembers := by decide
  have hmember : request.body.member? "sort" = some .null :=
    (member?_body_eq_null_iff hrequest hslot).mpr .document
  exact ⟨request, hrequest, rfl, by rw [hmember, Option.isSome_some], hmember⟩

end FacetedSearch
