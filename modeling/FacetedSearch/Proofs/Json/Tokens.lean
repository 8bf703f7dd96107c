import FacetedSearch.Proofs.Json.Numbers
import FacetedSearch.Proofs.Json.Strings

/-!
# Tokens of written JSON

A stretch of text is split into the same tokens wherever it stands, as long as what
follows it does not go on with a number at its end. Stretches are put together from the left:
blanks and single marks go before any stretch, and a stretch goes before any that starts
with a blank or a mark.
-/

namespace FacetedSearch.Json

/-- The tokens of a stretch of text, whatever follows it. -/
def Lexes (text : List Char) (tokens : List Token) : Prop :=
  ∀ rest, EndsNumber rest → tokens? (text ++ rest) = (tokens? rest).map (tokens ++ ·)

/-- A character that is a token of its own. -/
def IsMark (c : Char) (token : Token) : Prop :=
  isSpace c = false ∧ continuesNumber c = false ∧ ∀ rest, scanToken (c :: rest) = some (token, rest)

theorem isMark_opening_square : IsMark '[' (.opening .square) := ⟨rfl, rfl, fun _ => rfl⟩

theorem isMark_closing_square : IsMark ']' (.closing .square) := ⟨rfl, rfl, fun _ => rfl⟩

theorem isMark_opening_curly : IsMark '\x7b' (.opening .curly) := ⟨rfl, rfl, fun _ => rfl⟩

theorem isMark_closing_curly : IsMark '\x7d' (.closing .curly) := ⟨rfl, rfl, fun _ => rfl⟩

theorem isMark_comma : IsMark ',' .comma := ⟨rfl, rfl, fun _ => rfl⟩

theorem isMark_colon : IsMark ':' .colon := ⟨rfl, rfl, fun _ => rfl⟩

/-! ### The token at the start of a text -/

theorem isSpace_of_mem {spaces : List Char} (h : AreSpaces spaces) :
    ∀ c ∈ spaces, isSpace c = true := by
  intro c hc
  simpa [isSpace, or_assoc] using h c hc

/-- One step of the split, without the proofs that a token takes a character. -/
theorem tokens?_eq (text : List Char) :
    tokens? text =
      match text.dropWhile isSpace with
      | [] => some []
      | c :: rest => (scanToken (c :: rest)).bind fun r => (tokens? r.2).map (r.1 :: ·) := by
  rw [tokens?]
  split
  · next hdrop => rw [hdrop]
  · next hdrop =>
    rw [hdrop]
    dsimp only
    split
    · next hscan => rw [hscan, Option.bind_none]
    · next hscan => rw [hscan, Option.bind_some]

/-- Blanks at the start of a text make no difference. -/
theorem tokens?_append_spaces {spaces : List Char} (h : AreSpaces spaces) (rest : List Char) :
    tokens? (spaces ++ rest) = tokens? rest := by
  rw [tokens?_eq, List.dropWhile_append_of_pos (isSpace_of_mem h), ← tokens?_eq]

theorem tokens?_cons {c : Char} {text rest : List Char} {token : Token} (hc : isSpace c = false)
    (h : scanToken (c :: text) = some (token, rest)) :
    tokens? (c :: text) = (tokens? rest).map (token :: ·) := by
  rw [tokens?_eq, List.dropWhile_cons_of_neg (by simp [hc])]
  simp only [h, Option.bind_some]

theorem tokens?_nil : tokens? [] = some [] := by
  rw [tokens?_eq, List.dropWhile_nil]

/-! ### Stretches of text -/

theorem endsNumber_append_spaces {spaces rest : List Char} (h : AreSpaces spaces)
    (hrest : EndsNumber rest) : EndsNumber (spaces ++ rest) := by
  cases spaces with
  | nil => exact hrest
  | cons c spaces => rcases h c List.mem_cons_self with rfl | rfl | rfl | rfl <;> rfl

theorem Lexes.tokens?_eq {text : List Char} {tokens : List Token} (h : Lexes text tokens) :
    tokens? text = some tokens := by
  simpa [tokens?_nil] using h [] trivial

theorem lexes_nil : Lexes [] [] := by
  intro rest _
  simp

theorem Lexes.append_spaces {text spaces : List Char} {tokens : List Token} (h : Lexes text tokens)
    (hspaces : AreSpaces spaces) : Lexes (text ++ spaces) tokens := by
  intro rest hrest
  rw [List.append_assoc, h _ (endsNumber_append_spaces hspaces hrest),
    tokens?_append_spaces hspaces]

theorem Lexes.spaces_append {spaces text : List Char} {tokens : List Token} (h : Lexes text tokens)
    (hspaces : AreSpaces spaces) : Lexes (spaces ++ text) tokens := by
  intro rest hrest
  rw [List.append_assoc, tokens?_append_spaces hspaces, h rest hrest]

theorem lexes_spaces {spaces : List Char} (h : AreSpaces spaces) : Lexes spaces [] := by
  simpa using lexes_nil.spaces_append h

/-- A token that is found at the start of a text, whatever follows it. -/
theorem lexes_token {c : Char} {text : List Char} {token : Token} (hc : isSpace c = false)
    (h : ∀ rest, EndsNumber rest → scanToken (c :: text ++ rest) = some (token, rest)) :
    Lexes (c :: text) [token] :=
  fun rest hrest => tokens?_cons hc (h rest hrest)

theorem IsStringText.exists_lexes {content : String} {text : List Char}
    (h : IsStringText content text) :
    ∃ pieces, Lexes text [.string pieces] ∧ decode? pieces = some content := by
  obtain ⟨pieces, hscan, hdecode⟩ := h.exists_token
  obtain ⟨-⟩ := h
  exact ⟨pieces, lexes_token rfl fun rest _ => hscan rest, hdecode⟩

theorem IsNumber.lexes {text : List Char} (h : IsNumber text) : Lexes text [.plain] := by
  have hscan {rest : List Char} (hrest : EndsNumber rest) := scanToken_number h hrest
  obtain ⟨c, text, rfl, hc⟩ := h.exists_cons
  have hspace : isSpace c = false := by
    rcases hc with rfl | hc
    · rfl
    · simp only [isSpace, Bool.or_eq_false_iff, beq_eq_false_iff_ne]
      refine ⟨⟨⟨?_, ?_⟩, ?_⟩, ?_⟩ <;> rintro rfl <;> simp at hc
  exact lexes_token hspace fun _ => hscan

theorem IsMark.cons {c : Char} {token : Token} {text : List Char} {tokens : List Token}
    (hc : IsMark c token) (h : Lexes text tokens) : Lexes (c :: text) (token :: tokens) := by
  obtain ⟨hspace, -, hscan⟩ := hc
  intro rest hrest
  rw [List.cons_append, tokens?_cons hspace (hscan _), h rest hrest, Option.map_map]
  rfl

/-- A stretch goes before one that starts with a mark. -/
theorem Lexes.append_mark {text rest : List Char} {c : Char} {token : Token}
    {tokens tokens' : List Token} (h : Lexes text tokens) (hc : IsMark c token)
    (hrest : Lexes rest tokens') : Lexes (text ++ c :: rest) (tokens ++ token :: tokens') := by
  intro following hfollowing
  have hends : EndsNumber (c :: rest ++ following) := hc.2.1
  rw [List.append_assoc, h _ hends, hc.cons hrest following hfollowing, Option.map_map]
  simp [Function.comp_def]

theorem Lexes.bracketed {first last : Char} {opening closing : Token} {text : List Char}
    {tokens : List Token} (h : Lexes text tokens) (hfirst : IsMark first opening)
    (hlast : IsMark last closing) :
    Lexes (first :: (text ++ [last])) (opening :: (tokens ++ [closing])) :=
  hfirst.cons (h.append_mark hlast lexes_nil)

end FacetedSearch.Json
