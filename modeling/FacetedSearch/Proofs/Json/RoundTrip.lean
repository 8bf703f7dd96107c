import FacetedSearch.Supplied

/-!
# What JSON survives being supplied

A JSON value that is supplied and written again is the same value, except for integers that fit no
signed word: they become doubles. Arrays are taken apart and put together again, so such an integer
is lost inside them at any depth; objects are passed on as they are with all that they hold.
-/

namespace FacetedSearch

/-- The value is an integer greater than every signed word, or has one in its arrays. -/
inductive Json.ReachesLargeInteger : Json → Prop
  | self {n : Int} {inRange : -9223372036854775808 ≤ n ∧ n ≤ 18446744073709551615}
      (h : 9223372036854775807 < n) : ReachesLargeInteger (.number (.int n inRange))
  | item {items : List Json} {item : Json} (hitem : item ∈ items)
      (h : item.ReachesLargeInteger) : ReachesLargeInteger (.array items)

/-- No double is written as an integer. -/
theorem Json.ofBinary64_ne_int (x : Binary64) {n : Int}
    {inRange : -9223372036854775808 ≤ n ∧ n ≤ 18446744073709551615} :
    Json.ofBinary64 x ≠ .number (.int n inRange) := by
  rw [ofBinary64, Number.ofBinary64?]
  by_cases hfinite : x.IsFinite
  · simp [hfinite]
  · simp [hfinite]

namespace Supplied

/-- An integer of a signed word is supplied as that word. -/
theorem ofJson_int {n : Int} {inRange : -9223372036854775808 ≤ n ∧ n ≤ 18446744073709551615}
    (h : n ≤ 9223372036854775807) : ofJson (.number (.int n inRange)) = .int (.ofInt n) := by
  rw [ofJson, Number.int64?, if_pos h]

/-- A larger integer is supplied as the nearest double. -/
theorem ofJson_large_int {n : Int} {inRange : -9223372036854775808 ≤ n ∧ n ≤ 18446744073709551615}
    (h : 9223372036854775807 < n) : ofJson (.number (.int n inRange)) = .float (.ofInt n) := by
  rw [ofJson, Number.int64?, if_neg (Int.not_le.mpr h), Number.toBinary64]

/-- A number is written as it was supplied unless it is too large. -/
theorem toJson_ofJson_number_iff (n : Number) :
    (ofJson (.number n)).toJson = .number n ↔ ¬ (Json.number n).ReachesLargeInteger := by
  cases n with
  | int value inRange =>
    by_cases hlarge : 9223372036854775807 < value
    · refine iff_of_false ?_ (not_not_intro (.self hlarge))
      rw [ofJson_large_int hlarge]
      exact Json.ofBinary64_ne_int _
    · have hword : (Int64.ofInt value).toInt = value :=
        Int64.toInt_ofInt_of_le (by omega) (by omega)
      refine iff_of_true ?_ ?_
      · rw [ofJson_int (Int.not_lt.mp hlarge)]
        simp only [toJson, Json.ofInt64, Number.ofInt64, hword]
      · intro h
        cases h with
        | self h => exact hlarge h
  | float x isFinite =>
    refine iff_of_true ?_ ?_
    · have hfloat : Number.ofBinary64? x = some (.float x isFinite) := dif_pos isFinite
      simp only [ofJson, Number.int64?, Number.toBinary64, toJson, Json.ofBinary64, hfloat]
    · intro h
      cases h

mutual

/--
A JSON value is written as it was supplied exactly if arrays alone lead to no integer that is too
large.
-/
theorem toJson_ofJson_iff : ∀ value : Json,
    (ofJson value).toJson = value ↔ ¬ value.ReachesLargeInteger
  | .null => iff_of_true rfl nofun
  | .bool _ => iff_of_true rfl nofun
  | .number n => toJson_ofJson_number_iff n
  | .string _ => iff_of_true rfl nofun
  | .array items => by
    rw [ofJson, toJson, Json.array.injEq, itemsToJson_itemsOfJson_iff items]
    constructor
    · intro hitems h
      cases h with
      | item hitem h => exact hitems _ hitem h
    · intro h item hitem hlarge
      exact h (.item hitem hlarge)
  | .object _ => iff_of_true rfl nofun

/-- A list of JSON values is written as it was supplied exactly if each of them is. -/
theorem itemsToJson_itemsOfJson_iff : ∀ items : List Json,
    itemsToJson (itemsOfJson items) = items ↔ ∀ item ∈ items, ¬ item.ReachesLargeInteger
  | [] => by simp [itemsOfJson, itemsToJson]
  | item :: rest => by
    rw [itemsOfJson, itemsToJson, List.cons.injEq, toJson_ofJson_iff item,
      itemsToJson_itemsOfJson_iff rest, List.forall_mem_cons]

end

/-- Null is the only JSON value that is supplied as null. -/
theorem isNull_ofJson_iff (value : Json) : (ofJson value).isNull = true ↔ value = .null := by
  cases value with
  | number n =>
    rw [ofJson]
    cases n.int64? <;> simp [isNull]
  | _ => simp [ofJson, isNull]

end Supplied

end FacetedSearch
