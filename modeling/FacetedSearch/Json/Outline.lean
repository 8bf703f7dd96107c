import FacetedSearch.Json.Token

/-!
# Outlines of JSON objects

The members of an object, read from its tokens. A member whose value is a string keeps
the string; of any other value only the form is checked. The form is strict: no
comma stands before a closing bracket.
-/

namespace FacetedSearch.Json

/-- A place between two tokens of a value. -/
inductive Place where
  /-- Before a value. -/
  | value
  /-- After the opening bracket of an array. -/
  | firstItem
  /-- After the opening bracket of an object. -/
  | firstName
  /-- After a comma in an object. -/
  | name
  /-- After the name of a member. -/
  | colon
  /-- After a value. -/
  | after
  deriving DecidableEq, Repr

/--
The place and the open brackets, the innermost first, after a token that may stand at a place.
-/
def Place.step (stack : List Bracket) : Place → Token → Option (Place × List Bracket)
  | .value, .plain | .value, .string _ | .firstItem, .plain | .firstItem, .string _ =>
    some (.after, stack)
  | .value, .opening .square | .firstItem, .opening .square => some (.firstItem, .square :: stack)
  | .value, .opening .curly | .firstItem, .opening .curly => some (.firstName, .curly :: stack)
  | .firstItem, .closing .square | .firstName, .closing .curly => some (.after, stack.tail)
  | .firstName, .string _ | .name, .string _ => some (.colon, stack)
  | .colon, .colon => some (.value, stack)
  | .after, .comma =>
    match stack with
    | .square :: _ => some (.value, stack)
    | .curly :: _ => some (.name, stack)
    | [] => none
  | .after, .closing bracket =>
    match stack with
    | innermost :: others => if bracket = innermost then some (.after, others) else none
    | [] => none
  | _, _ => none

/-- The tokens after a value that is read up to a place. -/
def skipFrom (place : Place) (stack : List Bracket) : List Token → Option (List Token)
  | [] => none
  | token :: rest =>
    match place.step stack token with
    | none => none
    | some (.after, []) => some rest
    | some (place, stack) => skipFrom place stack rest

/-- The tokens after a value. -/
def skipValue? (tokens : List Token) : Option (List Token) := skipFrom .value [] tokens

/-- A member of an object: the string of its name, and that of its value if it is a string. -/
structure Member where
  name : List Piece
  value : Option (List Piece)
  deriving DecidableEq, Repr

/-- The member at the start of the tokens, and what follows it. -/
def readMember? : List Token → Option (Member × List Token)
  | .string name :: .colon :: .string value :: rest => some (⟨name, some value⟩, rest)
  | .string name :: .colon :: rest => (skipValue? rest).map fun rest => (⟨name, none⟩, rest)
  | _ => none

theorem length_lt_of_skipFrom {place : Place} {stack : List Bracket} {tokens rest : List Token}
    (h : skipFrom place stack tokens = some rest) : rest.length < tokens.length := by
  fun_induction skipFrom place stack tokens with
  | case1 => simp at h
  | case2 => simp at h
  | case3 => simp_all
  | case4 place stack token tokens _ _ _ _ ih =>
    have := ih h
    simp only [List.length_cons]
    omega

theorem length_lt_of_readMember? {tokens rest : List Token} {member : Member}
    (h : readMember? tokens = some (member, rest)) : rest.length < tokens.length := by
  unfold readMember? at h
  split at h
  · simp only [Option.some.injEq, Prod.mk.injEq] at h
    simp only [← h.2, List.length_cons]
    omega
  · simp only [Option.map_eq_some_iff, Prod.mk.injEq] at h
    obtain ⟨_, hrest, _, rfl⟩ := h
    have := length_lt_of_skipFrom hrest
    simp only [List.length_cons]
    omega
  · simp at h

/-- The members up to the closing bracket that ends the tokens; there is at least one. -/
def readMembers? (tokens : List Token) : Option (List Member) :=
  match _hmember : readMember? tokens with
  | some (member, [.closing .curly]) => some [member]
  | some (member, .comma :: rest) => (readMembers? rest).map (member :: ·)
  | _ => none
termination_by tokens.length
decreasing_by
  have hlt := length_lt_of_readMember? _hmember
  rw [List.length_cons] at hlt
  omega

/-- The members of an object that the tokens are the text of. -/
def objectMembers? : List Token → Option (List Member)
  | [.opening .curly, .closing .curly] => some []
  | .opening .curly :: rest => readMembers? rest
  | _ => none

end FacetedSearch.Json
