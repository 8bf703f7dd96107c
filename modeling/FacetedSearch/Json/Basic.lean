import FacetedSearch.Binary64
import FacetedSearch.NameMap

/-!
# JSON values

A number is an integer of 64 bits, signed or unsigned, or a finite double; the
integer 1 and the double 1 are different values. An object is the list of its
members; the functions that build one keep the names strictly increasing, which
makes the list the one representation of the object. Equality of values is
exact: doubles are equal when their bits are.
-/

namespace FacetedSearch

/-- A JSON number. -/
inductive Number where
  /-- An integer of 64 bits, signed or unsigned. -/
  | int (value : Int) (inRange : -9223372036854775808 ≤ value ∧ value ≤ 18446744073709551615)
  /-- A finite double. -/
  | float (value : Binary64) (isFinite : value.IsFinite)
  deriving DecidableEq

/-- A JSON value. -/
inductive Json where
  | null
  | bool (value : Bool)
  | number (value : Number)
  | string (value : String)
  | array (items : List Json)
  | object (members : List (String × Json))

namespace Number

/-- The integer of a signed word. -/
def ofInt64 (n : Int64) : Number :=
  .int n.toInt ⟨n.le_toInt, by have := n.toInt_lt; omega⟩

/-- The integer of an unsigned word. -/
def ofUInt64 (n : UInt64) : Number :=
  .int n.toNat ⟨by omega, by have := n.toNat_lt; omega⟩

/-- The signed word that holds a number, if it is an integer and one does. -/
def int64? : Number → Option Int64
  | .int value _ => if value ≤ 9223372036854775807 then some (.ofInt value) else none
  | .float _ _ => none

/-- The double nearest to a number. -/
def toBinary64 : Number → Binary64
  | .int value _ => .ofInt value
  | .float value _ => value

/-- The number of a double, if it is finite. -/
def ofBinary64? (x : Binary64) : Option Number := if h : x.IsFinite then some (.float x h) else none

/--
Whether two numbers are the same kind of number and equal; the two zeros among the doubles are.
-/
def same : Number → Number → Bool
  | .int a _, .int b _ => a == b
  | .float a _, .float b _ => a.sameNumber b
  | _, _ => false

end Number

namespace Json

instance : Inhabited Json := ⟨.null⟩

/-- The number of a signed word. -/
def ofInt64 (n : Int64) : Json := .number (.ofInt64 n)

/-- The number of an unsigned word. -/
def ofUInt64 (n : UInt64) : Json := .number (.ofUInt64 n)

/-- The number of a double; JSON has no number for the infinities and NaN, which become null. -/
def ofBinary64 (x : Binary64) : Json :=
  match Number.ofBinary64? x with
  | some n => .number n
  | none => .null

/-- The object with the given members; the last of several members of one name stays. -/
def ofMembers (members : List (String × Json)) : Json := .object (NameMap.ofList members).entries

/-- The object of one member. -/
def field (name : String) (value : Json) : Json := .object [(name, value)]

/-- Take a member out of an object; a value that is no object has none. -/
def removeMember (value : Json) (name : String) : Json :=
  match value with
  | .object members => .object (members.filter (·.1 ≠ name))
  | other => other

/--
Set a member of an object; the value that it had is lost. Null, or any other value that is no
object, gives way to the object of this one member.
-/
def setMember (value : Json) (name : String) (member : Json) : Json :=
  match value with
  | .object members => .object (NameMap.insertEntry name member members)
  | _ => field name member

mutual

/-- Structural equality, with the two zeros among the doubles taken as equal. -/
def same : Json → Json → Bool
  | .null, .null => true
  | .bool a, .bool b => a == b
  | .number a, .number b => a.same b
  | .string a, .string b => a == b
  | .array a, .array b => sameItems a b
  | .object a, .object b => sameMembers a b
  | _, _ => false

/-- Equality of lists, item by item. -/
def sameItems : List Json → List Json → Bool
  | [], [] => true
  | a :: as, b :: bs => a.same b && sameItems as bs
  | _, _ => false

/-- Equality of member lists: the same names in the same order, with equal values. -/
def sameMembers : List (String × Json) → List (String × Json) → Bool
  | [], [] => true
  | (m, a) :: as, (n, b) :: bs => m == n && a.same b && sameMembers as bs
  | _, _ => false

end

end Json

end FacetedSearch
