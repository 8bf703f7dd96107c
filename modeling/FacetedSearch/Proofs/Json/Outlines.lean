import Mathlib.Data.List.Forall2
import FacetedSearch.Json.Outline
import FacetedSearch.Proofs.Json.Tokens

/-!
# Outlines of written JSON

Every text of an object is read as the object's members, with the strings that were
written. What a stretch of text is decides what its tokens do: those of a value lead from a place
before a value to the place after it, with any brackets open; those of the items or the
members between two brackets do so inside these brackets; and those of members are also read
one by one. Each rule of the grammar preserves this, so it holds of all texts.
-/

namespace FacetedSearch.Json

/-! ### Places -/

/-- The place after an opening bracket. -/
def Bracket.firstPlace : Bracket → Place
  | .square => .firstItem
  | .curly => .firstName

/-- The place after a comma between two brackets. -/
def Bracket.nextPlace : Bracket → Place
  | .square => .value
  | .curly => .name

/-- What is left to skip after a value between open brackets. -/
def skipAfter : List Bracket → List Token → Option (List Token)
  | [], tokens => some tokens
  | stack, tokens => skipFrom .after stack tokens

/-- The tokens lead from a place to the place after a value. -/
def Passes (place : Place) (stack : List Bracket) (tokens : List Token) : Prop :=
  ∀ rest, skipFrom place stack (tokens ++ rest) = skipAfter stack rest

/-- The tokens of a value, wherever one may stand. -/
def PassesValue (tokens : List Token) : Prop :=
  ∀ stack, Passes .value stack tokens ∧ Passes .firstItem stack tokens

/-- The tokens between two brackets, or after a comma between them. -/
def PassesWithin (bracket : Bracket) (tokens : List Token) : Prop :=
  ∀ stack, Passes bracket.firstPlace (bracket :: stack) tokens ∧
    Passes bracket.nextPlace (bracket :: stack) tokens

theorem skipFrom_cons_after {place : Place} {stack stack' : List Bracket} {token : Token}
    (h : place.step stack token = some (.after, stack')) (rest : List Token) :
    skipFrom place stack (token :: rest) = skipAfter stack' rest := by
  cases stack' <;> simp [skipFrom, skipAfter, h]

theorem skipFrom_cons_of_ne {place place' : Place} {stack stack' : List Bracket} {token : Token}
    (h : place.step stack token = some (place', stack')) (hne : place' ≠ .after)
    (rest : List Token) :
    skipFrom place stack (token :: rest) = skipFrom place' stack' rest := by
  rw [skipFrom, h]
  split <;> simp_all

theorem skipAfter_closing (bracket : Bracket) (stack : List Bracket) (rest : List Token) :
    skipAfter (bracket :: stack) (.closing bracket :: rest) = skipAfter stack rest :=
  skipFrom_cons_after (by simp [Place.step]) rest

theorem skipAfter_comma (bracket : Bracket) (stack : List Bracket) (rest : List Token) :
    skipAfter (bracket :: stack) (.comma :: rest) =
      skipFrom bracket.nextPlace (bracket :: stack) rest := by
  change skipFrom .after _ _ = _
  cases bracket <;> rw [skipFrom_cons_of_ne rfl (by decide)] <;> rfl

theorem passesValue_plain : PassesValue [.plain] := fun _ =>
  ⟨skipFrom_cons_after rfl, skipFrom_cons_after rfl⟩

theorem passesValue_string (pieces : List Piece) : PassesValue [.string pieces] := fun _ =>
  ⟨skipFrom_cons_after rfl, skipFrom_cons_after rfl⟩

theorem passesValue_empty (bracket : Bracket) :
    PassesValue [.opening bracket, .closing bracket] := by
  intro stack
  constructor <;> intro rest <;> cases bracket
  all_goals
    rw [List.cons_append, skipFrom_cons_of_ne rfl (by decide)]
    exact skipFrom_cons_after rfl rest

theorem PassesWithin.passesValue {bracket : Bracket} {tokens : List Token}
    (h : PassesWithin bracket tokens) :
    PassesValue (.opening bracket :: (tokens ++ [.closing bracket])) := by
  intro stack
  have hclose (rest : List Token) : skipFrom bracket.firstPlace (bracket :: stack)
      (tokens ++ .closing bracket :: rest) = skipAfter stack rest := by
    rw [(h stack).1, skipAfter_closing]
  constructor <;> intro rest <;> cases bracket
  all_goals
    rw [List.cons_append, List.append_assoc, skipFrom_cons_of_ne rfl (by decide)]
    exact hclose rest

theorem PassesWithin.separated {bracket : Bracket} {first others : List Token}
    (h : PassesWithin bracket first) (hothers : PassesWithin bracket others) :
    PassesWithin bracket (first ++ .comma :: others) := by
  intro stack
  constructor <;> intro rest
  · rw [List.append_assoc, (h stack).1, List.cons_append, skipAfter_comma, (hothers stack).2]
  · rw [List.append_assoc, (h stack).2, List.cons_append, skipAfter_comma, (hothers stack).2]

theorem PassesValue.passesWithin {tokens : List Token} (h : PassesValue tokens) :
    PassesWithin .square tokens := fun stack => (h (.square :: stack)).symm

/-- A member leads from the place before its name to the place after its value. -/
theorem PassesValue.passesMember {tokens : List Token} (h : PassesValue tokens)
    (name : List Piece) : PassesWithin .curly (.string name :: .colon :: tokens) := by
  intro stack
  constructor <;> intro rest
  all_goals
    rw [List.cons_append, List.cons_append, skipFrom_cons_of_ne rfl (by decide),
      skipFrom_cons_of_ne rfl (by decide)]
    exact (h _).1 rest

/-! ### Members -/

/-- A member that was read has the name and the string that were written. -/
def Member.Denotes (member : Member) (named : String × Option String) : Prop :=
  decode? member.name = some named.1 ∧
    Option.Rel (fun pieces content => decode? pieces = some content) member.value named.2

/-- The tokens of a value show whether it is a string, and which. -/
def ShowsString (tokens : List Token) : Option String → Prop
  | some content => ∃ pieces, tokens = [.string pieces] ∧ decode? pieces = some content
  | none => ∃ token rest, tokens = token :: rest ∧ ∀ pieces, token ≠ .string pieces

/-- The tokens are read as one member, whatever follows them. -/
def ReadsMember (tokens : List Token) (named : String × Option String) : Prop :=
  ∃ member : Member, member.Denotes named ∧
    ∀ rest, readMember? (tokens ++ rest) = some (member, rest)

/-- The tokens are read as members up to the end of an object. -/
def ReadsMembers (tokens : List Token) (list : List (String × Option String)) : Prop :=
  ∃ members : List Member, List.Forall₂ Member.Denotes members list ∧
    readMembers? (tokens ++ [.closing .curly]) = some members

theorem readsMember_of_value {pieces : List Piece} {name : String} {string? : Option String}
    {tokens : List Token} (hname : decode? pieces = some name) (hvalue : PassesValue tokens)
    (hstring : ShowsString tokens string?) :
    ReadsMember (.string pieces :: .colon :: tokens) (name, string?) := by
  cases string? with
  | some content =>
    obtain ⟨value, rfl, hdecode⟩ := hstring
    exact ⟨⟨pieces, some value⟩, ⟨hname, .some hdecode⟩, fun _ => rfl⟩
  | none =>
    obtain ⟨token, others, rfl, hne⟩ := hstring
    refine ⟨⟨pieces, none⟩, ⟨hname, .none⟩, fun rest => ?_⟩
    have hskip : skipValue? (token :: others ++ rest) = some rest := (hvalue []).1 rest
    simp only [List.cons_append] at hskip ⊢
    rw [readMember?, hskip]
    · rfl
    · simpa using hne

theorem readMembers?_eq (tokens : List Token) :
    readMembers? tokens =
      match readMember? tokens with
      | some (member, [.closing .curly]) => some [member]
      | some (member, .comma :: rest) => (readMembers? rest).map (member :: ·)
      | _ => none := by
  rw [readMembers?]
  split <;> simp_all

theorem ReadsMember.readsMembers {tokens : List Token} {named : String × Option String}
    (h : ReadsMember tokens named) : ReadsMembers tokens [named] := by
  obtain ⟨member, hdenotes, hread⟩ := h
  refine ⟨[member], .cons hdenotes .nil, ?_⟩
  rw [readMembers?_eq, hread]

theorem ReadsMember.separated {first others : List Token} {named : String × Option String}
    {list : List (String × Option String)} (h : ReadsMember first named)
    (hothers : ReadsMembers others list) :
    ReadsMembers (first ++ .comma :: others) (named :: list) := by
  obtain ⟨member, hdenotes, hread⟩ := h
  obtain ⟨members, hdenotesAll, hreadAll⟩ := hothers
  refine ⟨member :: members, .cons hdenotes hdenotesAll, ?_⟩
  rw [readMembers?_eq, List.append_assoc, hread, List.cons_append]
  simp [hreadAll]

/-! ### Phrases -/

/-- What the tokens of a phrase do. -/
def Reads : Phrase → List Token → Prop
  | .value string?, tokens | .item string?, tokens =>
    PassesValue tokens ∧ ShowsString tokens string?
  | .items, tokens => PassesWithin .square tokens
  | .member named, tokens => PassesWithin .curly tokens ∧ ReadsMember tokens named
  | .members list, tokens => PassesWithin .curly tokens ∧ ReadsMembers tokens list
  | .object list, tokens => PassesValue tokens ∧ ∃ members : List Member,
      List.Forall₂ Member.Denotes members list ∧ objectMembers? tokens = some members ∧
      ∃ rest, tokens = .opening .curly :: rest

theorem reads_plain : Reads (.value none) [.plain] :=
  ⟨passesValue_plain, .plain, [], rfl, nofun⟩

theorem reads_bracketed {tokens : List Token} (h : Reads .items tokens) :
    Reads (.value none) (.opening .square :: (tokens ++ [.closing .square])) :=
  ⟨PassesWithin.passesValue h, _, _, rfl, nofun⟩

theorem reads_object {tokens : List Token} {list : List (String × Option String)}
    (h : Reads (.members list) tokens) :
    Reads (.object list) (.opening .curly :: (tokens ++ [.closing .curly])) := by
  obtain ⟨hpasses, members, hdenotes, hread⟩ := h
  refine ⟨hpasses.passesValue, members, hdenotes, ?_, _, rfl⟩
  cases tokens with
  | nil => simp [readMembers?_eq, readMember?] at hread
  | cons token tokens => simpa [objectMembers?] using hread

/-- The tokens of a text are those of its phrase, wherever it stands. -/
theorem IsText.exists_tokens {phrase : Phrase} {text : List Char} (h : IsText phrase text) :
    ∃ tokens, Lexes text tokens ∧ Reads phrase tokens := by
  -- one case a rule: the tokens of its parts are put together as their texts are
  induction h with
  | null => exact ⟨[.plain], lexes_token rfl fun _ _ => rfl, reads_plain⟩
  | true => exact ⟨[.plain], lexes_token rfl fun _ _ => rfl, reads_plain⟩
  | false => exact ⟨[.plain], lexes_token rfl fun _ _ => rfl, reads_plain⟩
  | number h => exact ⟨[.plain], h.lexes, reads_plain⟩
  | string h =>
    obtain ⟨pieces, hlexes, hdecode⟩ := h.exists_lexes
    exact ⟨_, hlexes, passesValue_string pieces, pieces, rfl, hdecode⟩
  | emptyArray h =>
    exact ⟨_, (lexes_spaces h).bracketed isMark_opening_square isMark_closing_square,
      passesValue_empty .square, _, _, rfl, nofun⟩
  | array _ ih =>
    obtain ⟨tokens, hlexes, hreads⟩ := ih
    exact ⟨_, hlexes.bracketed isMark_opening_square isMark_closing_square,
      reads_bracketed hreads⟩
  | objectValue _ ih =>
    obtain ⟨tokens, hlexes, hpasses, -, -, -, rest, rfl⟩ := ih
    exact ⟨_, hlexes, hpasses, _, _, rfl, nofun⟩
  | item hbefore _ hafter ih =>
    obtain ⟨tokens, hlexes, hreads⟩ := ih
    exact ⟨tokens, (hlexes.spaces_append hbefore).append_spaces hafter, hreads⟩
  | lastItem _ ih =>
    obtain ⟨tokens, hlexes, hpasses, -⟩ := ih
    exact ⟨tokens, hlexes, hpasses.passesWithin⟩
  | moreItems _ _ ih ihRest =>
    obtain ⟨tokens, hlexes, hpasses, -⟩ := ih
    obtain ⟨others, hlexesRest, hpassesRest⟩ := ihRest
    exact ⟨_, hlexes.append_mark isMark_comma hlexesRest,
      hpasses.passesWithin.separated hpassesRest⟩
  | member hbefore hname hafter _ ih =>
    obtain ⟨pieces, hlexesName, hdecode⟩ := hname.exists_lexes
    obtain ⟨tokens, hlexes, hpasses, hstring⟩ := ih
    exact ⟨_, ((hlexesName.spaces_append hbefore).append_spaces hafter).append_mark isMark_colon
      hlexes, hpasses.passesMember pieces, readsMember_of_value hdecode hpasses hstring⟩
  | lastMember _ ih =>
    obtain ⟨tokens, hlexes, hpasses, hreads⟩ := ih
    exact ⟨tokens, hlexes, hpasses, hreads.readsMembers⟩
  | moreMembers _ _ ih ihRest =>
    obtain ⟨tokens, hlexes, hpasses, hreads⟩ := ih
    obtain ⟨others, hlexesRest, hpassesRest, hreadsRest⟩ := ihRest
    exact ⟨_, hlexes.append_mark isMark_comma hlexesRest, hpasses.separated hpassesRest,
      hreads.separated hreadsRest⟩
  | emptyObject h =>
    exact ⟨_, (lexes_spaces h).bracketed isMark_opening_curly isMark_closing_curly,
      passesValue_empty .curly, [], .nil, rfl, _, rfl⟩
  | object _ ih =>
    obtain ⟨tokens, hlexes, hreads⟩ := ih
    exact ⟨_, hlexes.bracketed isMark_opening_curly isMark_closing_curly, reads_object hreads⟩

/-- The members of an object are read from any of its texts. -/
theorem IsObjectText.exists_members {list : List (String × Option String)} {text : List Char}
    (h : IsObjectText list text) :
    ∃ tokens members, tokens? text = some tokens ∧ objectMembers? tokens = some members ∧
      List.Forall₂ Member.Denotes members list ∧ ∃ rest, tokens = .opening .curly :: rest := by
  obtain ⟨hbefore, hobject, hafter⟩ := h
  obtain ⟨tokens, hlexes, -, members, hdenotes, hread, hopening⟩ := hobject.exists_tokens
  exact ⟨tokens, members, ((hlexes.spaces_append hbefore).append_spaces hafter).tokens?_eq, hread,
    hdenotes, hopening⟩

end FacetedSearch.Json
