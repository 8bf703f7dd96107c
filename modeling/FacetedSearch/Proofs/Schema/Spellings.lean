import FacetedSearch.Proofs.Schema.Acceptance
import FacetedSearch.Proofs.Schema.Inertness

/-!
# Spellings of identifiers

An identifier can be typed in, given as a reference or taken from a record, and a
list of identifiers can be written in any order, with repetitions, nulls and blanks in it. These
are spellings of one value: a shape for identifiers reads all of them alike, and
refuses all of them alike if there is an item that denotes no identifier.
-/

namespace FacetedSearch

namespace Supplied

/-- A single value spells an identifier. -/
inductive Spells : Supplied → Identifier → Prop
  | int (value : Int64) : Spells (.int value) (.number value)
  | text (value : String) : Spells (.text value) (.text value)
  | raw (id : Identifier) : Spells (.reference (.raw id)) id
  | entity (id : Identifier) : Spells (.reference (.entity id)) id

/-- Two lists of items are ways to write the same list of identifiers. -/
inductive RespelledItems : List Supplied → List Supplied → Prop
  | permuted {items items' : List Supplied} (h : items.Perm items') : RespelledItems items items'
  /-- An item that is repeated, be it an identifier or not. -/
  | repeated {item : Supplied} {items : List Supplied} (h : item ∈ items) :
      RespelledItems items (item :: items)
  | null (items : List Supplied) : RespelledItems items (.null :: items)
  | blank {item : Supplied} (items : List Supplied) (h : item.IsBlankIdentifier) :
      RespelledItems items (item :: items)
  | respelled {item item' : Supplied} {id : Identifier} (items : List Supplied)
      (h : item.Spells id) (h' : item'.Spells id) : RespelledItems (item :: items) (item' :: items)
  | symm {items items' : List Supplied} (h : RespelledItems items items') :
      RespelledItems items' items
  | trans {items items' items'' : List Supplied} (h : RespelledItems items items')
      (h' : RespelledItems items' items'') : RespelledItems items items''

/-- Two values are ways to write the same list of identifiers. -/
inductive Respelled : Supplied → Supplied → Prop
  | list {items items' : List Supplied} (h : RespelledItems items items') :
      Respelled (.list items) (.list items')
  /-- A list of a single identifier and the identifier alone. -/
  | alone {item : Supplied} {id : Identifier} (h : item.Spells id) : Respelled (.list [item]) item
  | symm {value value' : Supplied} (h : Respelled value value') : Respelled value' value
  | trans {value value' value'' : Supplied} (h : Respelled value value')
      (h' : Respelled value' value'') : Respelled value value''

/-- The identifier of a single value is the one that it spells. -/
theorem identifier?_eq_some_iff {value : Supplied} {id : Identifier} :
    value.identifier? = some id ↔ value.Spells id := by
  constructor
  · intro h
    cases value with
    | int value =>
      obtain rfl := Option.some.inj h
      exact .int value
    | text value =>
      obtain rfl := Option.some.inj h
      exact .text value
    | reference value =>
      obtain rfl := Option.some.inj h
      cases value with
      | raw id => exact .raw id
      | entity id => exact .entity id
    | _ => simp [identifier?] at h
  · intro h
    cases h <;> rfl

/-- What spells an identifier may stand in a list of identifiers. -/
theorem Spells.isReferenceItem {value : Supplied} {id : Identifier} (h : value.Spells id) :
    value.isReferenceItem = true := by
  rw [Supplied.isReferenceItem, identifier?_eq_some_iff.mpr h]
  simp

/-- A blank identifier may stand in a list of identifiers. -/
theorem IsBlankIdentifier.isReferenceItem {value : Supplied} (h : value.IsBlankIdentifier) :
    value.isReferenceItem = true := by
  obtain ⟨id, hid, -⟩ := value.isBlankIdentifier_iff.mp h
  exact (identifier?_eq_some_iff.mp hid).isReferenceItem

/-! ### Lists -/

/-- Respelled lists are both refused or both accepted. -/
theorem RespelledItems.all_isReferenceItem {items items' : List Supplied}
    (h : RespelledItems items items') :
    items.all isReferenceItem = items'.all isReferenceItem := by
  induction h with
  | permuted hperm => exact hperm.all_eq
  | @repeated item items hitem =>
    rw [List.all_cons]
    cases hall : items.all isReferenceItem with
    | false => rw [Bool.and_false]
    | true => rw [List.all_eq_true.mp hall item hitem, Bool.and_true]
  | null items => rfl
  | blank items hblank => rw [List.all_cons, hblank.isReferenceItem, Bool.true_and]
  | respelled items hspells hspells' =>
    rw [List.all_cons, List.all_cons, hspells.isReferenceItem, hspells'.isReferenceItem]
  | symm _ ih => exact ih.symm
  | trans _ _ ih ih' => exact ih.trans ih'

/-- Respelled lists have the same identifiers that are not blank. -/
theorem RespelledItems.exists_identifier?_iff {items items' : List Supplied}
    (h : RespelledItems items items') {id : Identifier} (hblank : id.isBlank = false) :
    (∃ item ∈ items, item.identifier? = some id) ↔
      ∃ item ∈ items', item.identifier? = some id := by
  induction h with
  | permuted hperm => simp only [hperm.mem_iff]
  | @repeated item items hitem =>
    rw [List.exists_mem_cons_iff]
    constructor
    · exact Or.inr
    · rintro (hid | hrest)
      · exact ⟨item, hitem, hid⟩
      · exact hrest
  | null items => simp [identifier?]
  | @blank item items hitem =>
    obtain ⟨found, hfound, hfoundBlank⟩ := item.isBlankIdentifier_iff.mp hitem
    have hne : item.identifier? ≠ some id := by
      rintro hid
      obtain rfl := Option.some.inj (hfound.symm.trans hid)
      rw [hblank] at hfoundBlank
      exact Bool.false_ne_true hfoundBlank
    simp only [List.exists_mem_cons_iff, hne, false_or]
  | respelled items hspells hspells' =>
    simp only [List.exists_mem_cons_iff, identifier?_eq_some_iff.mpr hspells,
      identifier?_eq_some_iff.mpr hspells']
  | symm _ ih => exact ih.symm
  | trans _ _ ih ih' => exact ih.trans ih'

/-- Sets of identifiers that are not blank depend on the members of the lists. -/
theorem nonBlank_congr {ids ids' : List Identifier}
    (h : ∀ id, id.isBlank = false → (id ∈ ids ↔ id ∈ ids')) : nonBlank ids = nonBlank ids' := by
  apply IdentifierSet.ext_mem
  intro id
  rw [mem_nonBlank, mem_nonBlank]
  constructor
  · rintro ⟨hid, hblank⟩
    exact ⟨(h id hblank).mp hid, hblank⟩
  · rintro ⟨hid, hblank⟩
    exact ⟨(h id hblank).mpr hid, hblank⟩

/-- Respelled lists give the same set. -/
theorem RespelledItems.references?_eq {items items' : List Supplied}
    (h : RespelledItems items items') : (list items).references? = (list items').references? := by
  have hset : nonBlank (items.filterMap identifier?) = nonBlank (items'.filterMap identifier?) := by
    apply nonBlank_congr
    intro id hblank
    rw [List.mem_filterMap, List.mem_filterMap]
    exact h.exists_identifier?_iff hblank
  simp only [references?, h.all_isReferenceItem, hset]

/-- An identifier alone gives the set of the list with nothing else in it. -/
theorem Spells.references?_eq {item : Supplied} {id : Identifier} (h : item.Spells id) :
    (list [item]).references? = item.references? ∧ item.references? = some (nonBlank [id]) := by
  have hid := identifier?_eq_some_iff.mpr h
  have halone : item.references? = some (nonBlank [id]) := by
    cases h <;> rfl
  refine ⟨?_, halone⟩
  rw [halone, references?]
  simp [h.isReferenceItem, hid]

end Supplied

/-! ### Shapes and schemas -/

namespace Shape

/-- A shape for several identifiers reads all spellings of a list alike. -/
theorem read_references_eq_of_respelled {value value' : Supplied} (h : value.Respelled value') :
    Shape.references.read value = Shape.references.read value' := by
  induction h with
  | list hitems =>
    have hset := hitems.references?_eq
    simp only [read, Supplied.isNull, setting?, hset]
    rfl
  | @alone item id hspells =>
    obtain ⟨hlist, halone⟩ := hspells.references?_eq
    have hread (value : Supplied) (hvalue : value ≠ .null)
        (hset : value.references? = some (Supplied.nonBlank [id])) :
        Shape.references.read value = .ok (.ids (Supplied.nonBlank [id])) := by
      rw [read_eq_ok_iff hvalue, setting?, hset]
      rfl
    have hitem : item ≠ .null := by
      cases hspells <;> simp
    rw [hread (.list [item]) (by simp) (hlist.trans halone), hread item hitem halone]
  | symm _ ih => exact ih.symm
  | trans _ _ ih ih' => exact ih.trans ih'

/-- A shape for one identifier reads all its spellings alike. -/
theorem read_reference_eq_of_spells {value value' : Supplied} {id : Identifier}
    (h : value.Spells id) (h' : value'.Spells id) :
    Shape.reference.read value = Shape.reference.read value' := by
  have hread (item : Supplied) (hitem : item.Spells id) :
      Shape.reference.read item = .ok (.ids (Supplied.nonBlank [id])) := by
    cases hitem <;> rfl
  rw [hread value h, hread value' h']

end Shape

end FacetedSearch
