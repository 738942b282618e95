import RubyBlocks.Proofs.Delimiters
import RubyBlocks.Proofs.Conversion

/-!
# What folding keeps of a text

A block of keywords gets its braces in place: one `do` and one `end` are exchanged, at
the columns that the search found, and no other character moves. `Braced` says so about
the lines of the block. The conversion looks for the two words again, on lines that
still have their tildes, and on a shared line it looks for the `do` after the `end` is
gone. It finds the same words: tildes are in no word, and the brace that stands for the
`end` is as good a neighbour as what was there before.

A long block is converted by that alone. A short one is folded, and there the blanks
change. What folding keeps are the words between them, and everything about these
follows from one equation: a blank anywhere cuts the words of a text in two
(`tokens_append_cons`). So joining lines by a space neither fuses nor splits words,
squeezing a run of blanks changes none, and blanks in front have none.
-/

namespace RubyBlocks

namespace Text

/-- The words of a text, in their order: its longest pieces without blanks. -/
def tokens (text : Text) : List Text := (text.splitOnP isBlank).filter (· ≠ [])

theorem tokens_append_cons {c : Char} (hc : isBlank c = true) (left right : Text) :
    tokens (left ++ c :: right) = tokens left ++ tokens right := by
  rw [tokens, List.splitOnP_append_cons left right hc, List.filter_append]
  rfl

theorem tokens_blanks_append {blanks text : Text} (hb : Blanks blanks) :
    tokens (blanks ++ text) = tokens text := by
  induction blanks with
  | nil => rfl
  | cons c blanks ih =>
      have hcut := tokens_append_cons (hb c List.mem_cons_self) [] (blanks ++ text)
      exact hcut.trans (ih fun d hd => hb d (List.mem_cons_of_mem _ hd))

theorem tokens_dropWhile (text : Text) :
    tokens (text.dropWhile isBlank) = tokens text := by
  rw [← tokens_blanks_append (blanks_takeWhile text), List.takeWhile_append_dropWhile]

theorem tokens_squeeze (text : Text) : tokens (squeeze text) = tokens text := by
  -- Within a run nothing is written in front, outside of one there may be half a word.
  have hrun : ∀ text : Text, tokens (squeezeFrom true text) = tokens text ∧
      ∀ front, tokens (front ++ squeezeFrom false text) = tokens (front ++ text) := by
    intro text
    induction text with
    | nil => exact ⟨rfl, fun front => rfl⟩
    | cons c text ih =>
        cases hc : isBlank c with
        | true =>
            have hcut := tokens_append_cons hc [] text
            simp only [squeezeFrom, hc, if_true, Bool.false_eq_true, if_false]
            refine ⟨ih.1.trans hcut.symm, fun front => ?_⟩
            rw [tokens_append_cons isBlank_space, tokens_append_cons hc, ih.1]
        | false =>
            simp only [squeezeFrom, hc, Bool.false_eq_true, if_false]
            refine ⟨ih.2 [c], fun front => ?_⟩
            have hstep := ih.2 (front ++ [c])
            rwa [List.append_assoc, List.append_assoc] at hstep
  exact (hrun text).2 []

theorem tokens_intercalate :
    ∀ lines : List Text, tokens (List.intercalate [' '] lines) = lines.flatMap tokens
  | [] => rfl
  | [line] => by
      rw [List.intercalate_singleton, List.flatMap_singleton]
  | line :: next :: rest => by
      rw [List.intercalate_cons_cons, List.append_assoc, List.singleton_append,
        tokens_append_cons isBlank_space, tokens_intercalate (next :: rest),
        ← List.flatMap_cons]

/-! ## The form of a folded line -/

theorem SingleSpaced.cons {c : Char} {text : Text} (ht : SingleSpaced text)
    (hc : isBlank c = true → c = ' ' ∧ text.head?.any isBlank = false) :
    SingleSpaced (c :: text) := by
  refine ⟨fun d hd hblank => ?_, ?_⟩
  · rcases List.mem_cons.1 hd with rfl | hd
    · exact (hc hblank).1
    · exact ht.1 d hd hblank
  · cases text with
    | nil => exact List.isChain_singleton c
    | cons d text =>
        refine List.isChain_cons_cons.2 ⟨fun hblank => ?_, ht.2⟩
        have hd := (hc hblank.1).2
        rw [List.head?_cons, Option.any_some, hblank.2] at hd
        cases hd

theorem singleSpaced_squeeze (text : Text) : SingleSpaced (squeeze text) := by
  have hrun : ∀ text : Text, SingleSpaced (squeezeFrom false text) ∧
      SingleSpaced (squeezeFrom true text) ∧
      (squeezeFrom true text).head?.any isBlank = false := by
    intro text
    induction text with
    | nil => decide
    | cons c text ih =>
        obtain ⟨hfalse, htrue, hhead⟩ := ih
        cases hc : isBlank c with
        | true =>
            simp only [squeezeFrom, hc, if_true, Bool.false_eq_true, if_false]
            exact ⟨htrue.cons fun _ => ⟨rfl, hhead⟩, htrue, hhead⟩
        | false =>
            simp only [squeezeFrom, hc, Bool.false_eq_true, if_false]
            have hcons : SingleSpaced (c :: squeezeFrom false text) :=
              hfalse.cons fun hblank => by rw [hc] at hblank; cases hblank
            exact ⟨hcons, hcons, hc⟩
  exact (hrun text).1

theorem SingleSpaced.dropWhile {text : Text} (h : SingleSpaced text)
    (p : Char → Bool) : SingleSpaced (text.dropWhile p) :=
  ⟨fun c hc => h.1 c ((List.dropWhile_sublist p).mem hc),
    h.2.suffix (List.dropWhile_suffix p)⟩

theorem indentation_append_cons {front back : Text} {c : Char}
    (hc : isBlank c = false) : indentation (front ++ c :: back) = indentation front := by
  induction front with
  | nil => exact List.takeWhile_cons_of_neg (by simp [hc])
  | cons d front ih =>
      simp only [indentation] at ih ⊢
      rw [List.cons_append, List.takeWhile_cons, List.takeWhile_cons, ih]

end Text

namespace Block

/-- The lines of a block of keywords with braces in the place of the two keywords: of
the `do` at the column where the block opens, of the `end` where it closes. -/
inductive Braced (block : Block) : List Text → List Text → Prop where
  | together {front body back : Text} (opening : front.length = block.opening.column)
      (closing : (front ++ (['d', 'o'] ++ body)).length = block.closing.column) :
      Braced block [front ++ (['d', 'o'] ++ (body ++ (['e', 'n', 'd'] ++ back)))]
        [front ++ '{' :: (body ++ '}' :: back)]
  | apart {front after before back : Text} {middle : List Text}
      (opening : front.length = block.opening.column)
      (closing : before.length = block.closing.column) :
      Braced block
        ((front ++ (['d', 'o'] ++ after)) ::
          (middle ++ [before ++ (['e', 'n', 'd'] ++ back)]))
        ((front ++ '{' :: after) :: (middle ++ [before ++ '}' :: back]))

theorem Braced.exists_head {block : Block} {own braced : List Text}
    (h : Braced block own braced) : ∃ first brace, own.head? = some first ∧
      braced.head? = some brace ∧ Text.indentation brace = Text.indentation first := by
  have hd : Text.isBlank 'd' = false := by decide
  cases h with
  | together | apart =>
      refine ⟨_, _, rfl, rfl, ?_⟩
      rw [Text.indentation_append_cons Text.isBlank_openingBrace]
      exact (Text.indentation_append_cons hd).symm

/-! ## The two keywords -/

theorem replaceKeyword_word {side : Side} {front back : Text} (replacement : Text)
    (hleft : front.getLast?.any Text.isWord = false)
    (hright : back.head?.any Text.isWord = false) :
    replaceKeyword side front.length replacement (front ++ (side.keyword ++ back)) =
      front ++ (replacement ++ back) :=
  replaceKeyword_append replacement
    (Marker.standsIn_keyword_iff.2 ⟨front, back, rfl, rfl, hleft, hright⟩)

/-- On a line that holds both keywords the second one does not care about the first. -/
theorem replaceKeyword_together {line : Text} {k j : Nat}
    (hopening : Marker.WholeWordAt Side.opening.keyword line k)
    (hclosing : Marker.WholeWordAt Side.closing.keyword line j)
    (hlt : k + Side.opening.keyword.length < j) :
    ∃ front body back,
      line = front ++ (['d', 'o'] ++ (body ++ (['e', 'n', 'd'] ++ back))) ∧
      front.length = k ∧ (front ++ (['d', 'o'] ++ body)).length = j ∧
      replaceKeyword .opening k ['{'] (replaceKeyword .closing j ['}'] line) =
        front ++ '{' :: (body ++ '}' :: back) := by
  obtain ⟨front, after, hline, rfl, hleft, hright⟩ := hopening
  obtain ⟨before, back, rfl, rfl, hleft', hright'⟩ := hclosing
  obtain ⟨body, rfl, rfl⟩ : ∃ body, before = front ++ (Side.opening.keyword ++ body) ∧
      after = body ++ (Side.closing.keyword ++ back) := by
    rw [← List.append_assoc front] at hline
    rcases List.append_eq_append_iff.1 hline with ⟨t, ht, -⟩ | ⟨body, rfl, rfl⟩
    · have hlen := congrArg List.length ht
      rw [List.length_append, List.length_append] at hlen
      omega
    · exact ⟨body, List.append_assoc _ _ _, rfl⟩
  refine ⟨front, body, back, by simp [Side.keyword], rfl, rfl, ?_⟩
  -- What follows the `do` is what followed it before, or the brace.
  have hnext : (body ++ (['}'] ++ back)).head?.any Text.isWord = false := by
    cases body with
    | nil => exact Text.isWord_closingBrace
    | cons c body => exact hright
  rw [replaceKeyword_word ['}'] hleft' hright', List.append_assoc, List.append_assoc,
    replaceKeyword_word ['{'] hleft hnext]
  rfl

/-- The conversion exchanges the keywords that were found. -/
theorem Encloses.braced {lines own : List Text} {cursor : Nat} {block : Block}
    (h : Encloses lines cursor block) (hstyle : block.style = .keyword)
    (hown : sourceLines lines block = .ok own) :
    Braced block own (bracesForKeywords block own) := by
  obtain ⟨first, hfirst, -⟩ := h.opening_found
  obtain ⟨last, hlast, -⟩ := h.closing_found
  have hopens := h.standsIn_opening hfirst
  have hcloses := h.standsIn_closing hlast
  rw [hstyle] at hopens hcloses
  have hdo := Marker.wholeWordAt_of_standsIn hopens
  have hend := Marker.wholeWordAt_of_standsIn hcloses
  rcases sourceLines_cases h.opening_le_closing hfirst hlast with
    ⟨hone, hown'⟩ | ⟨-, middle, hown'⟩
  · rw [hown] at hown'
    injection hown' with hown'
    subst hown'
    rw [hone, hlast] at hfirst
    injection hfirst with hfirst
    subst hfirst
    obtain ⟨front, body, back, rfl, hopening, hclosing, heq⟩ :=
      replaceKeyword_together hdo hend (hopens.apart hcloses (h.column_lt hone))
    have hbraces : ∀ line, bracesForKeywords block [line] =
        [replaceKeyword .opening block.opening.column ['{']
          (replaceKeyword .closing block.closing.column ['}'] line)] := fun _ => rfl
    rw [hbraces, heq]
    exact .together hopening hclosing
  · rw [hown] at hown'
    injection hown' with hown'
    subst hown'
    obtain ⟨front, after, rfl, hopening, hleft, hright⟩ := hdo
    obtain ⟨before, back, rfl, hclosing, hleft', hright'⟩ := hend
    rw [bracesForKeywords_eq, ← hopening, ← hclosing,
      replaceKeyword_word ['{'] hleft hright, replaceKeyword_word ['}'] hleft' hright']
    exact .apart hopening hclosing

/-! ## Folding -/

theorem tokens_fold (lines : List Text) :
    Text.tokens (fold lines) = lines.flatMap Text.tokens := by
  have hindent : Text.Blanks ((lines.head?.map Text.indentation).getD []) := by
    cases lines with
    | nil => exact fun c hc => absurd hc List.not_mem_nil
    | cons line lines => exact Text.blanks_takeWhile line
  rw [fold, Text.tokens_blanks_append hindent, Text.tokens_dropWhile, Text.tokens_squeeze,
    Text.tokens_intercalate]

/-- What becomes of a block of keywords: its lines with braces for the keywords, or the
words of these on one line. -/
theorem toggle_keyword_tokens {lines : List Text} {cursor : Nat} {block : Block}
    (hblock : enclosing lines cursor = .ok block) (hstyle : block.style = .keyword) :
    ∃ own braced toggled, sourceLines lines block = .ok own ∧
      Braced block own braced ∧ toggle lines cursor = .ok toggled ∧
      (3 < own.length → toggled.lines = braced) ∧
      (own.length ≤ 3 → ∃ first text, own.head? = some first ∧
        toggled.lines = [Text.indentation first ++ text] ∧
        text.head?.any Text.isBlank = false ∧ Text.SingleSpaced text ∧
        Text.tokens (Text.indentation first ++ text) =
          braced.flatMap Text.tokens) := by
  have hencl := enclosing_eq_ok_iff.1 hblock
  obtain ⟨own, new, hown, hnew, hconv⟩ := hencl.exists_converts
  have hbraced := hencl.braced hstyle hown
  refine ⟨own, _, _, hown, hbraced, toggle_eq_ok hencl hnew, ?_⟩
  cases hconv with
  | folded _ short =>
      refine ⟨fun hlong => absurd short (by rw [foldLimit]; omega), fun _ => ?_⟩
      obtain ⟨first, brace, hfirst, hbrace, hindent⟩ := hbraced.exists_head
      have hfold : fold (bracesForKeywords block own) = Text.indentation first ++
          (Text.squeeze (List.intercalate [' '] (bracesForKeywords block own))).dropWhile
            Text.isBlank := by
        rw [fold, hbrace, Option.map_some, Option.getD_some, hindent]
      refine ⟨first, _, hfirst, congrArg (fun line => [line]) hfold,
        Text.head?_dropWhile _ _, (Text.singleSpaced_squeeze _).dropWhile _, ?_⟩
      rw [← hfold]
      exact tokens_fold _
  | swapped _ long =>
      refine ⟨fun _ => bracesForKeywords_eq.symm, fun hshort => ?_⟩
      rw [List.length_cons, List.length_append, List.length_singleton] at hshort
      omega
  | unfolded style => rw [hstyle] at style; cases style
  | cut style => rw [hstyle] at style; cases style

/-- Both keywords are on one line, between blanks of two kinds and before a tilde. -/
theorem toggle_keyword_tokens_shared :
    let lines : List Text :=
      [['\t', 'a', ' ', 'd', 'o', '\t', ' ', 'b', ' ', 'e', 'n', 'd', '~']]
    let block : Block := ⟨.keyword, ⟨0, 3⟩, ⟨0, 9⟩⟩
    let line : Text := ['\t', 'a', ' ', '{', ' ', 'b', ' ', '}', '~']
    enclosing lines 0 = .ok block ∧ toggle lines 0 = .ok ⟨[line], 0, 0⟩ ∧
      ∃ braced, Braced block lines braced ∧
        braced.flatMap Text.tokens = [['a'], ['{'], ['b'], ['}', '~']] := by
  intro lines block line
  have hblock : enclosing lines 0 = .ok block := rfl
  have hline : toggle lines 0 = .ok ⟨[line], 0, 0⟩ := rfl
  obtain ⟨own, braced, toggled, hown, hbraced, htoggle, -, hshort⟩ :=
    toggle_keyword_tokens hblock rfl
  obtain rfl : lines = own := Except.ok.inj hown
  obtain rfl := Except.ok.inj (hline.symm.trans htoggle)
  obtain ⟨first, text, -, hfolded, -, -, htokens⟩ := hshort (by decide)
  rw [← List.head_eq_of_cons_eq hfolded] at htokens
  exact ⟨hblock, hline, braced, hbraced, htokens.symm.trans (by decide +kernel)⟩

end Block

end RubyBlocks
