import FacetedSearch.Proofs.Facet.SellerText
import FacetedSearch.Proofs.Text.Surroundings

/-!
# The words between quotes

Double quotes around a seller's text ask for its words in another way, but for the same words.
A quoted text is lower-cased with its quotes and the blanks next to them, and trimmed after these
are gone; any other text is trimmed first. Both ways end at one text, since neither
blanks nor quotes make a difference to the letters beside them.
-/

namespace FacetedSearch

namespace FreeText

variable {before after text : List Char}

/-! ### A text in quotes -/

/-- A quoted text with blanks around it is trimmed down to its quotes. -/
theorem trim_quoted (hbefore : ∀ c ∈ before, Text.isBlank c = true)
    (hafter : ∀ c ∈ after, Text.isBlank c = true) :
    Text.trim (before ++ '"' :: (text ++ '"' :: after)) = '"' :: (text ++ ['"']) := by
  have hshape : before ++ '"' :: (text ++ '"' :: after) =
      before ++ ('"' :: (text ++ ['"'])) ++ after := by
    simp
  have hquote : ∀ c ∈ some '"', Text.isBlank c = false := by
    rintro c ⟨⟩
    decide
  rw [hshape]
  refine Text.trim_surrounded hbefore hafter hquote ?_
  rw [← List.cons_append, List.getLast?_concat]
  exact hquote

/-- A text is lower-cased in quotes as it is without them. -/
theorem lower_quoted (text : List Char) :
    Text.lower ('"' :: (text ++ ['"'])) = '"' :: (Text.lower text ++ ['"']) := by
  have hmarks : ∀ c ∈ ['"'], Text.IsMark c := fun c hc => .inr (List.mem_singleton.mp hc)
  have hlower : Text.lower (['"'] ++ text ++ ['"']) = ['"'] ++ Text.lower text ++ ['"'] :=
    Text.lower_between_marks hmarks hmarks
  exact hlower

/-- The phrase of a quoted text is what remains of the text without its quotes. -/
theorem phrase?_canonical_quoted (hquote : '"' ∉ text)
    (hbefore : ∀ c ∈ before, Text.isBlank c = true)
    (hafter : ∀ c ∈ after, Text.isBlank c = true) :
    phrase? (canonical (String.ofList (before ++ '"' :: (text ++ '"' :: after)))) =
      some (Text.lower (Text.trim text)) := by
  have hinner : '"' ∉ Text.lower text := mt (Text.mem_lowerAfter_iff isSign_quote.isKept).mp hquote
  have hcanonical : canonical (String.ofList (before ++ '"' :: (text ++ '"' :: after))) =
      '"' :: (Text.lower text ++ ['"']) := by
    rw [canonical, String.toList_ofList, trim_quoted hbefore hafter, lower_quoted]
  rw [← Text.trim_lower]
  exact phrase?_eq_some_iff.mpr ⟨Text.lower text, ⟨hcanonical, hinner⟩, rfl⟩

/-- A text without quotes is no phrase. -/
theorem phrase?_canonical_eq_none {text : String} (hquote : '"' ∉ text.toList) :
    phrase? (canonical text) = none := by
  refine phrase?_eq_none_iff.mpr fun inner hquoted => hquote ?_
  have hmem : '"' ∈ canonical text := hquoted.1 ▸ List.mem_cons_self
  exact Text.mem_of_mem_trim ((Text.mem_lowerAfter_iff isSign_quote.isKept).mp hmem)

/-! ### The words asked for -/

/-- A text without quotes asks for nothing if it is blank, and for alternatives if it is not. -/
theorem sellerQuery_unquoted (box : SellerBox) (fuzziness : String) {text : String}
    (hphrase : phrase? (canonical text) = none) :
    sellerQuery box fuzziness text = if canonical text = [] then .empty else
      .ofAlternatives .must (sellerAlternatives box fuzziness (canonical text)) := by
  rcases sellerQuery_cases box fuzziness text with
    (hempty | hidle) | ⟨phrase, -, hfound, -⟩ | ⟨hne, -, hquery⟩
  · rw [if_pos hempty, sellerQuery_of_isIdle box fuzziness (.inl hempty)]
  · simp [hphrase] at hidle
  · simp [hphrase] at hfound
  · rw [if_neg hne, hquery]

/-- A text with a phrase asks for nothing if the phrase is blank, and for its words if not. -/
theorem sellerQuery_quoted (box : SellerBox) (fuzziness : String) {text : String}
    {phrase : List Char} (hphrase : phrase? (canonical text) = some phrase) :
    sellerQuery box fuzziness text = if phrase = [] then .empty else
      .single .must (.words box.phraseField (String.ofList phrase) .all) := by
  rcases sellerQuery_cases box fuzziness text with
    (hempty | hidle) | ⟨found, hne, hfound, hquery⟩ | ⟨-, hnone, -⟩
  · simp [hempty, phrase?] at hphrase
  · obtain rfl := Option.some.inj (hphrase.symm.trans hidle)
    rw [if_pos rfl, sellerQuery_of_isIdle box fuzziness (.inr hidle)]
  · obtain rfl := Option.some.inj (hphrase.symm.trans hfound)
    rw [if_neg hne, hquery]
  · simp [hphrase] at hnone

theorem buyerQuery_of_ne_nil (box : BuyerBox) (fuzziness : String) {text : String}
    (hne : canonical text ≠ []) :
    buyerQuery box fuzziness text = .ofAlternatives .must
      [.fuzzy box.fuzzyFields (String.ofList (canonical text)) fuzziness] := by
  rw [buyerQuery]
  cases hcanonical : canonical text with
  | nil => exact absurd hcanonical hne
  | cons c rest => rfl

end FreeText

/--
A seller's text with no double quote in it asks for the same words with quotes around it as
without, blanks outside of the quotes or not. It asks for nothing in quotes exactly if it does so
without. Otherwise one query is the phrase of the quoted text, the words that the plain
text is to resemble besides its exact alternatives, and the words that a buyer's text is to
resemble. In quotes the text is lower-cased before the quotes and the blanks within are taken away,
which leaves the same as trimming it first.
-/
theorem quotes_keep_the_words (seller : SellerBox) (buyer : BuyerBox)
    (configuration : Configuration) {plain quoted bought : Settings} {text : String}
    {before after : List Char} (hquote : '"' ∉ text.toList)
    (hbefore : ∀ c ∈ before, Text.isBlank c = true)
    (hafter : ∀ c ∈ after, Text.isBlank c = true)
    (hplain : plain.text seller.option = some text)
    (hquoted : quoted.text seller.option =
      some (String.ofList (before ++ '"' :: (text.toList ++ '"' :: after))))
    (hbought : bought.text buyer.option = some text) :
    ((Facet.sellerText seller).contribution quoted configuration = .empty ↔
      (Facet.sellerText seller).contribution plain configuration = .empty) ∧
    ((Facet.sellerText seller).contribution plain configuration ≠ .empty → ∃ query others,
      (Facet.sellerText seller).contribution quoted configuration =
        { must := [.words seller.phraseField query .all] } ∧
      (Facet.sellerText seller).contribution plain configuration =
        { must := [.group {
            should := .fuzzy seller.fuzzyFields query configuration.fuzziness :: others
            minimum := some 1 }] } ∧
      (∀ clause ∈ others, ∃ field value, clause = .term field value) ∧
      (Facet.buyerText buyer).contribution bought configuration =
        { must := [.group {
            should := [.fuzzy buyer.fuzzyFields query configuration.fuzziness]
            minimum := some 1 }] } ∧
      query = String.ofList (Text.lower (Text.trim text.toList))) ∧
    ∃ spoken, Text.lower ('"' :: (text.toList ++ ['"'])) = '"' :: (spoken ++ ['"']) ∧
      Text.trim spoken = Text.lower (Text.trim text.toList) := by
  have hphrase := FreeText.phrase?_canonical_quoted hquote hbefore hafter
  have hnone := FreeText.phrase?_canonical_eq_none hquote
  simp only [Facet.contribution, hplain, hquoted, hbought,
    FreeText.sellerQuery_quoted seller _ hphrase, FreeText.sellerQuery_unquoted seller _ hnone]
  obtain ⟨others, halternatives, hothers⟩ := FreeText.exists_sellerAlternatives seller
    configuration.fuzziness (FreeText.canonical text)
  have hspoken := And.intro (FreeText.lower_quoted text.toList) (Text.trim_lower text.toList)
  by_cases hempty : FreeText.canonical text = []
  · rw [if_pos hempty, if_pos (show Text.lower (Text.trim text.toList) = [] from hempty)]
    exact ⟨Iff.rfl, fun hne => absurd rfl hne, _, hspoken⟩
  · rw [if_neg hempty, if_neg (show Text.lower (Text.trim text.toList) ≠ [] from hempty),
      FreeText.buyerQuery_of_ne_nil buyer _ hempty, halternatives,
      BooleanQuery.ofAlternatives_cons, BooleanQuery.ofAlternatives_cons]
    have hasks (clause : Clause) : BooleanQuery.single .must clause ≠ .empty := fun h =>
      absurd (congrArg BooleanQuery.must h) (List.cons_ne_nil clause [])
    exact ⟨iff_of_false (hasks _) (hasks _), fun _ => ⟨_, others, rfl, rfl, hothers, rfl, rfl⟩, _,
      hspoken⟩

/-- A capital sigma before a blank and a double quote is lower-cased as at the end of a text. -/
theorem final_sigma_between_quotes :
    (Facet.sellerText ⟨"seller_query", "full_name", ["full_name"], [], "serial"⟩).contribution
        ⟨NameMap.empty.insert "seller_query" (.text (some "\n\" ΟΔΟΣ\t\""))⟩ {} =
      { must := [.words "full_name" "οδος" .all] } ∧
    (Facet.buyerText ⟨"query", ["title"]⟩).contribution
        ⟨NameMap.empty.insert "query" (.text (some " ΟΔΟΣ\t"))⟩ {} =
      { must := [.group { should := [.fuzzy ["title"] "οδος" "AUTO"], minimum := some 1 }] } := by
  let seller : SellerBox := ⟨"seller_query", "full_name", ["full_name"], [], "serial"⟩
  let settings (option text : String) : Settings :=
    ⟨NameMap.empty.insert option (.text (some text))⟩
  have hplain : (settings "seller_query" " ΟΔΟΣ\t").text "seller_query" = some " ΟΔΟΣ\t" := rfl
  have hquoted : (settings "seller_query" "\n\" ΟΔΟΣ\t\"").text "seller_query" =
      some (String.ofList (['\n'] ++ '"' :: (" ΟΔΟΣ\t".toList ++ '"' :: []))) := rfl
  have hbought : (settings "query" " ΟΔΟΣ\t").text "query" = some " ΟΔΟΣ\t" := rfl
  have hasks : ¬ FreeText.IsIdleForSeller " ΟΔΟΣ\t" := by
    unfold FreeText.IsIdleForSeller
    decide +kernel
  have hne : (Facet.sellerText seller).contribution (settings "seller_query" " ΟΔΟΣ\t") {} ≠
      .empty :=
    mt (FreeText.sellerQuery_eq_empty_iff seller "AUTO" " ΟΔΟΣ\t").mp hasks
  obtain ⟨-, hwords, -⟩ := quotes_keep_the_words seller ⟨"query", ["title"]⟩ {} (by decide)
    (List.forall_mem_singleton.mpr (by decide)) (List.forall_mem_nil _) hplain hquoted hbought
  obtain ⟨query, -, hphrase, -, -, hbuyer, hquery⟩ := hwords hne
  have hlower : String.ofList (Text.lower (Text.trim " ΟΔΟΣ\t".toList)) = "οδος" := by
    decide +kernel
  rw [hlower] at hquery
  subst hquery
  exact ⟨hphrase, hbuyer⟩

end FacetedSearch
