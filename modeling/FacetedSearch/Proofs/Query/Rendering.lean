import FacetedSearch.Proofs.Json.Members

/-!
# Rendering loses nothing

Clauses are known from their JSON, and so are queries of any depth. The kind of a clause is
the name of its one member; the lists of a query are found under their names, where a list
that was left out was empty. The proof is by recursion over clauses, lists and queries at once.
-/

namespace FacetedSearch

/-- Bounds are told apart by their names. -/
theorem Bound.eq_of_name {a b : Bound} (h : a.name = b.name) : a = b := by
  cases a <;> cases b <;> first | rfl | exact absurd h (by decide)

/-- Operators are told apart by their names. -/
theorem Operator.eq_of_name {a b : Operator} (h : a.name = b.name) : a = b := by
  cases a <;> cases b <;> first | rfl | exact absurd h (by decide)

/-- The kind of a clause, which is the name of its one member. -/
def Clause.keyword : Clause → String
  | .term _ _ => "term"
  | .terms _ _ => "terms"
  | .present _ => "exists"
  | .range _ _ _ => "range"
  | .words _ _ _ => "match"
  | .fuzzy _ _ _ => "multi_match"
  | .group _ => "bool"

/-- Clauses with the same JSON are of the same kind. -/
theorem Clause.keyword_eq_of_toJson {a b : Clause} (h : a.toJson = b.toJson) :
    a.keyword = b.keyword := by
  have hmember (clause : Clause) : ∃ body, clause.toJson = .field clause.keyword body := by
    cases clause <;> exact ⟨_, rfl⟩
  obtain ⟨body, hbody⟩ := hmember a
  obtain ⟨body', hbody'⟩ := hmember b
  have hfield : Json.field a.keyword body = Json.field b.keyword body' :=
    hbody.symm.trans (h.trans hbody')
  simp only [Json.field, Json.object.injEq, List.cons.injEq, Prod.mk.injEq] at hfield
  exact hfield.1.1

namespace BooleanQuery

/-- Under the name of a list stands the array of its clauses, unless there are none. -/
theorem member?_toJson (query : BooleanQuery) (occurrence : Occurrence) :
    query.toJson.member? occurrence.name =
      Json.arrayOf? (Clause.listToJson (query.clauses occurrence)) := by
  obtain ⟨filter, mustNot, must, should, minimum⟩ := query
  rw [toJson, Json.member?_object]
  cases occurrence <;> simp [List.lookup_append, Occurrence.name, clauses]

/-- The least number stands under its name, if there is one. -/
theorem member?_minimum (query : BooleanQuery) :
    query.toJson.member? "minimum_should_match" =
      query.minimum.map fun n => .ofUInt64 n.toUInt64 := by
  obtain ⟨filter, mustNot, must, should, minimum⟩ := query
  rw [toJson, Json.member?_object]
  simp [List.lookup_append, Occurrence.name]

/-- Queries with the same JSON have the same clauses in JSON in each of their lists. -/
theorem listToJson_eq_of_toJson {a b : BooleanQuery} (h : a.toJson = b.toJson)
    (occurrence : Occurrence) :
    Clause.listToJson (a.clauses occurrence) = Clause.listToJson (b.clauses occurrence) := by
  apply Json.eq_of_arrayOf?
  rw [← member?_toJson, ← member?_toJson, h]

/-- Queries with the same JSON have the same least number. -/
theorem minimum_eq_of_toJson {a b : BooleanQuery} (h : a.toJson = b.toJson) :
    a.minimum = b.minimum := by
  have hmember : (a.minimum.map fun n => Json.ofUInt64 n.toUInt64) =
      b.minimum.map fun n => Json.ofUInt64 n.toUInt64 := by
    rw [← member?_minimum, ← member?_minimum, h]
  apply Option.map_injective _ hmember
  intro m n hnumber
  exact UInt32.toUInt64_inj.mp (Json.ofUInt64_injective hnumber)

end BooleanQuery

mutual

/-- Clauses with the same JSON are equal. -/
theorem Clause.eq_of_toJson : ∀ a b : Clause, a.toJson = b.toJson → a = b
  | .term field value, b, h => by
    -- The kinds agree, so of the seven cases for the other clause one is left.
    have hkind := Clause.keyword_eq_of_toJson h
    cases b with
    | term field' value' => simpa [Clause.toJson, Json.field] using h
    | _ => simp [Clause.keyword] at hkind
  | .terms field values, b, h => by
    have hkind := Clause.keyword_eq_of_toJson h
    cases b with
    | terms field' values' => simpa [Clause.toJson, Json.field] using h
    | _ => simp [Clause.keyword] at hkind
  | .present field, b, h => by
    have hkind := Clause.keyword_eq_of_toJson h
    cases b with
    | present field' => simpa [Clause.toJson, Json.field] using h
    | _ => simp [Clause.keyword] at hkind
  | .range field bound value, b, h => by
    have hkind := Clause.keyword_eq_of_toJson h
    cases b with
    | range field' bound' value' =>
      have hparts : field = field' ∧ bound.name = bound'.name ∧ value = value' := by
        simpa [Clause.toJson, Json.field] using h
      obtain ⟨rfl, hname, rfl⟩ := hparts
      rw [Bound.eq_of_name hname]
    | _ => simp [Clause.keyword] at hkind
  | .words field query operator, b, h => by
    have hkind := Clause.keyword_eq_of_toJson h
    cases b with
    | words field' query' operator' =>
      have hparts : field = field' ∧ operator.name = operator'.name ∧ query = query' := by
        simpa [Clause.toJson, Json.field] using h
      obtain ⟨rfl, hname, rfl⟩ := hparts
      rw [Operator.eq_of_name hname]
    | _ => simp [Clause.keyword] at hkind
  | .fuzzy fields query fuzziness, b, h => by
    have hkind := Clause.keyword_eq_of_toJson h
    cases b with
    | fuzzy fields' query' fuzziness' =>
      have hparts : fields.map Json.string = fields'.map Json.string ∧ fuzziness = fuzziness' ∧
          query = query' := by
        simpa [Clause.toJson, Json.field] using h
      obtain ⟨hfields, rfl, rfl⟩ := hparts
      have hstrings : fields = fields' :=
        (List.map_inj_right fun s t hst => Json.string.inj hst).mp hfields
      rw [hstrings]
    | _ => simp [Clause.keyword] at hkind
  | .group query, b, h => by
    have hkind := Clause.keyword_eq_of_toJson h
    cases b with
    | group query' =>
      have hquery : query.toJson = query'.toJson := by
        simpa [Clause.toJson, Json.field] using h
      rw [BooleanQuery.eq_of_toJson query query' hquery]
    | _ => simp [Clause.keyword] at hkind

/-- Lists of clauses with the same JSON are equal. -/
theorem Clause.eq_of_listToJson : ∀ as bs : List Clause,
    Clause.listToJson as = Clause.listToJson bs → as = bs
  | [], [], _ => rfl
  | [], _ :: _, h => by simp [Clause.listToJson] at h
  | _ :: _, [], h => by simp [Clause.listToJson] at h
  | a :: as, b :: bs, h => by
    rw [Clause.listToJson, Clause.listToJson, List.cons.injEq] at h
    rw [Clause.eq_of_toJson a b h.1, Clause.eq_of_listToJson as bs h.2]

/-- Queries with the same JSON are equal. -/
theorem BooleanQuery.eq_of_toJson : ∀ a b : BooleanQuery, a.toJson = b.toJson → a = b
  | ⟨filter, mustNot, must, should, minimum⟩, ⟨filter', mustNot', must', should', minimum'⟩, h => by
    have hlists := BooleanQuery.listToJson_eq_of_toJson h
    have hminimum : minimum = minimum' := BooleanQuery.minimum_eq_of_toJson h
    rw [Clause.eq_of_listToJson filter filter' (hlists .filter),
      Clause.eq_of_listToJson mustNot mustNot' (hlists .mustNot),
      Clause.eq_of_listToJson must must' (hlists .must),
      Clause.eq_of_listToJson should should' (hlists .should), hminimum]

end

/-! ### Order of the members -/

mutual

/-- The values in a clause are ordered. -/
def Clause.ValuesOrdered : Clause → Prop
  | .term _ value => value.Ordered
  | .terms _ values => Json.AllOrdered values
  | .range _ _ value => value.Ordered
  | .group query => query.ValuesOrdered
  | _ => True

/-- The values in every clause of a list are ordered. -/
def Clause.AllValuesOrdered : List Clause → Prop
  | [] => True
  | clause :: rest => clause.ValuesOrdered ∧ Clause.AllValuesOrdered rest

/-- The values in every clause of a query are ordered. -/
def BooleanQuery.ValuesOrdered : BooleanQuery → Prop
  | ⟨filter, mustNot, must, should, _⟩ =>
    Clause.AllValuesOrdered filter ∧ Clause.AllValuesOrdered mustNot ∧
      Clause.AllValuesOrdered must ∧ Clause.AllValuesOrdered should

end

mutual

/-- A clause of ordered values is written in order. -/
theorem Clause.ordered_toJson : ∀ clause : Clause, clause.ValuesOrdered → clause.toJson.Ordered
  | .term _ _, h => Json.ordered_field (Json.ordered_field h)
  | .terms _ _, h => Json.ordered_field (Json.ordered_field h)
  | .present _, _ => Json.ordered_field (Json.ordered_field trivial)
  | .range _ _ _, h => Json.ordered_field (Json.ordered_field (Json.ordered_field h))
  | .words _ query operator, _ => by
    have hnames : ["operator", "query"].Pairwise (· < ·) := by decide
    exact Json.ordered_field (Json.ordered_field ⟨hnames, trivial, trivial, trivial⟩)
  | .fuzzy fields query fuzziness, _ => by
    have hnames : ["fields", "fuzziness", "query"].Pairwise (· < ·) := by decide
    have hfields : Json.AllOrdered (fields.map .string) := by
      rw [Json.allOrdered_iff, List.forall_mem_map]
      exact fun _ _ => trivial
    exact Json.ordered_field ⟨hnames, hfields, trivial, trivial, trivial⟩
  | .group query, h => Json.ordered_field (BooleanQuery.ordered_toJson query h)

/-- Clauses of ordered values are written in order. -/
theorem Clause.allOrdered_listToJson : ∀ clauses : List Clause,
    Clause.AllValuesOrdered clauses → Json.AllOrdered (Clause.listToJson clauses)
  | [], _ => trivial
  | clause :: rest, h =>
    ⟨Clause.ordered_toJson clause h.1, Clause.allOrdered_listToJson rest h.2⟩

/-- A query of ordered values is written in order. -/
theorem BooleanQuery.ordered_toJson : ∀ query : BooleanQuery,
    query.ValuesOrdered → query.toJson.Ordered
  | ⟨filter, mustNot, must, should, minimum⟩, ⟨hfilter, hmustNot, hmust, hshould⟩ => by
    have hnames : ["filter", "minimum_should_match", "must", "must_not", "should"].Pairwise
        (· < ·) := by decide
    rw [BooleanQuery.toJson, Json.Ordered]
    constructor
    · simp only [List.map_append]
      refine List.Pairwise.sublist ?_ hnames
      exact ((((Json.names_nonEmpty _ _).append (Json.names_optional _ _)).append
        (Json.names_nonEmpty _ _)).append (Json.names_nonEmpty _ _)).append
          (Json.names_nonEmpty _ _)
    · have hminimum : Json.MembersOrdered (Json.optional "minimum_should_match"
          (minimum.map fun n => .ofUInt64 n.toUInt64)) := by
        apply Json.membersOrdered_optional
        intro found hfound
        obtain ⟨n, -, rfl⟩ := Option.map_eq_some_iff.mp hfound
        trivial
      simp only [Json.membersOrdered_append]
      exact ⟨⟨⟨⟨Json.membersOrdered_nonEmpty (Clause.allOrdered_listToJson filter hfilter),
        hminimum⟩, Json.membersOrdered_nonEmpty (Clause.allOrdered_listToJson must hmust)⟩,
        Json.membersOrdered_nonEmpty (Clause.allOrdered_listToJson mustNot hmustNot)⟩,
        Json.membersOrdered_nonEmpty (Clause.allOrdered_listToJson should hshould)⟩

end

end FacetedSearch
