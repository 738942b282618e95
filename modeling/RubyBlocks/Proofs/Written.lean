import RubyBlocks.Proofs.Delimiters
import RubyBlocks.Proofs.Conversion

/-!
# The lines that a conversion writes

A document puts the new lines of a block back between line endings, and that goes
wrong in two ways: a line feed inside a new line is one line more, and a carriage
return at its end may be taken for a part of the ending. So two questions are asked
of every blank but the space. Does it occur in a new line, and does a new line end in
it?

There are four ways to convert a block (`Converts`), and the answers are the same for
all of them. What a conversion adds are keywords, braces and spaces; everything else
it takes from the old lines, so no new line has a blank that no old one has
(`Converts.not_mem`). Where it cuts a line it puts a delimiter, so a new line ends in
such a blank only if it is an old line with its old end. The last new line is the
last old one then, and the others are others (`Converts.getLast?_dropLast` and
`Converts.getLast?_last`).

The folded line is the one that takes an argument. It starts with the blanks of the
first old line as they are, and it ends with them if there is nothing else in the
block. A block that was found has its delimiters.
-/

namespace RubyBlocks

namespace Text

/-! ## Pieces of a text -/

theorem mem_of_mem_dropTrailing {p : Char → Bool} {text : Text} {c : Char}
    (h : c ∈ dropTrailing p text) : c ∈ text := by
  rw [dropTrailing, List.mem_reverse] at h
  exact List.mem_reverse.1 ((List.dropWhile_sublist p).mem h)

theorem mem_of_mem_trim {text : Text} {c : Char} (h : c ∈ trim text) : c ∈ text :=
  (List.dropWhile_sublist isBlank).mem (mem_of_mem_dropTrailing h)

theorem mem_of_mem_slice {text : Text} {first last : Nat} {c : Char}
    (h : c ∈ slice text first last) : c ∈ text :=
  List.mem_of_mem_take (List.mem_of_mem_drop h)

theorem mem_of_mem_eraseFirst {part : Text} {c : Char} :
    ∀ {text : Text}, c ∈ eraseFirst part text → c ∈ text
  | [], h => absurd h List.not_mem_nil
  | d :: text, h => by
      rw [eraseFirst] at h
      split at h
      · exact List.mem_of_mem_drop h
      · rcases List.mem_cons.1 h with rfl | h
        · exact List.mem_cons_self
        · exact List.mem_cons_of_mem _ (mem_of_mem_eraseFirst h)

theorem getLast?_dropTrailing (p : Char → Bool) (text : Text) :
    (dropTrailing p text).getLast?.any p = false := by
  rw [dropTrailing, List.getLast?_reverse]
  exact head?_dropWhile p text.reverse

/-- Squeezing leaves no blank but the space. -/
theorem not_mem_squeeze {c : Char} (hc : isBlank c = true) (hne : c ≠ ' ')
    (text : Text) : c ∉ squeeze text := by
  have hrun : ∀ (text : Text) (inRun : Bool), c ∉ squeezeFrom inRun text := by
    intro text
    induction text with
    | nil => intro inRun; exact List.not_mem_nil
    | cons d text ih =>
        intro inRun
        rw [squeezeFrom]
        split <;> rename_i hd
        · split
          · exact ih true
          · simpa [hne] using ih true
        · have hcd : c ≠ d := fun heq => hd (heq ▸ hc)
          simpa [hcd] using ih false
  exact hrun text false

theorem blanks_of_squeeze {text : Text} (h : Blanks (squeeze text)) :
    Blanks text := by
  have hrun : ∀ (text : Text) (inRun : Bool),
      Blanks (squeezeFrom inRun text) → Blanks text := by
    intro text
    induction text with
    | nil => intro inRun _ c hc; exact absurd hc List.not_mem_nil
    | cons d text ih =>
        intro inRun h c hc
        rw [squeezeFrom] at h
        split at h <;> rename_i hd
        · have hrest : Blanks text := by
            split at h
            · exact ih true h
            · exact ih true fun e he => h e (List.mem_cons_of_mem _ he)
          rcases List.mem_cons.1 hc with rfl | hc
          · exact hd
          · exact hrest c hc
        · exact absurd (h d List.mem_cons_self) hd
  exact hrun text false h

end Text

namespace Block

/-! ## What each line is made of -/

theorem mem_of_mem_arguments? {line list : Text} (h : arguments? line = some list) :
    (∀ c ∈ list, c ∈ line) ∧ list.getLast? = some '|' := by
  obtain ⟨piece, hpiece, hbarred⟩ := List.exists_of_findSome?_eq_some h
  simp only [barred?] at hbarred
  split at hbarred <;> rename_i hlen
  · injection hbarred with hbarred
    subst hbarred
    refine ⟨fun c hc => mem_of_mem_splitOn hpiece ?_, ?_⟩
    · exact (List.dropWhile_sublist _).mem (Text.mem_of_mem_dropTrailing hc)
    · have hlast := Text.getLast?_dropTrailing (· != '|')
        (piece.dropWhile (· != '|'))
      cases hl : (Text.dropTrailing (· != '|')
          (piece.dropWhile (· != '|'))).getLast? with
      | none =>
          rw [List.getLast?_eq_none_iff.1 hl] at hlen
          exact absurd hlen (by simp)
      | some c =>
          rw [hl] at hlast
          simpa using hlast
  · cases hbarred

theorem mem_of_mem_inlineBody {line : Text} {block : Block} {arguments : Option Text}
    {c : Char} (h : c ∈ inlineBody line block arguments) : c ∈ line := by
  simp only [inlineBody] at h
  split at h
  · exact Text.mem_of_mem_slice
      (Text.mem_of_mem_trim (Text.mem_of_mem_eraseFirst (Text.mem_of_mem_trim h)))
  · exact Text.mem_of_mem_slice (Text.mem_of_mem_trim h)

theorem getLast?_inlineBody (line : Text) (block : Block) (arguments : Option Text) :
    (inlineBody line block arguments).getLast?.any Text.isBlank = false := by
  simp only [inlineBody]
  split <;> exact Text.getLast?_dropTrailing _ _

theorem replaceKeyword_cases (side : Side) (column : Nat) (replacement line : Text) :
    replaceKeyword side column replacement line = line ∨
      ∃ k, replaceKeyword side column replacement line =
        line.take k ++ (replacement ++ line.drop (k + side.keyword.length)) := by
  rw [replaceKeyword]
  split
  · exact Or.inr ⟨_, List.append_assoc _ _ _⟩
  · exact Or.inl rfl

theorem forall_mem_modify {P : Text → Prop} {f : Text → Text} {lines : List Text}
    {i : Nat} (hf : ∀ line, P line → P (f line)) (h : ∀ line ∈ lines, P line) :
    ∀ line ∈ lines.modify i f, P line := by
  intro line hline
  obtain ⟨j, hj⟩ := List.mem_iff_getElem?.1 hline
  rw [List.getElem?_modify] at hj
  obtain ⟨old, hold, rfl⟩ := Option.map_eq_some_iff.1 hj
  have hmem := h old (List.mem_of_getElem? hold)
  split
  · exact hf old hmem
  · exact hmem

theorem blanks_of_modify {f : Text → Text} {lines : List Text} {i : Nat}
    (hf : ∀ line, Text.Blanks (f line) → Text.Blanks line)
    (h : ∀ line ∈ lines.modify i f, Text.Blanks line) :
    ∀ line ∈ lines, Text.Blanks line := by
  intro line hline
  obtain ⟨j, hj⟩ := List.mem_iff_getElem?.1 hline
  have hnew : (lines.modify i f)[j]? = some (if i = j then f line else line) := by
    rw [List.getElem?_modify, hj]
    split <;> rfl
  have hblanks := h _ (List.mem_of_getElem? hnew)
  split at hblanks
  · exact hf line hblanks
  · exact hblanks

theorem blanks_of_replaceKeyword {side : Side} {column : Nat} {brace : Char}
    {line : Text} (hbrace : Text.isBlank brace = false)
    (h : Text.Blanks (replaceKeyword side column [brace] line)) :
    Text.Blanks line := by
  rcases replaceKeyword_cases side column [brace] line with heq | ⟨k, heq⟩
  · rwa [heq] at h
  · rw [heq] at h
    have hblank := h brace (by simp)
    rw [hbrace] at hblank
    cases hblank

theorem blanks_of_bracesForKeywords {block : Block} {lines : List Text}
    (h : ∀ line ∈ bracesForKeywords block lines, Text.Blanks line) :
    ∀ line ∈ lines, Text.Blanks line :=
  blanks_of_modify (fun _ => blanks_of_replaceKeyword Text.isBlank_closingBrace)
    (blanks_of_modify (fun _ => blanks_of_replaceKeyword Text.isBlank_openingBrace) h)

/-- The last line of a block that was found has a delimiter on it. -/
theorem Encloses.exists_getLast? {lines own : List Text} {cursor : Nat} {block : Block}
    (h : Encloses lines cursor block) (hown : sourceLines lines block = .ok own) :
    ∃ last, own.getLast? = some last ∧ ¬ Text.Blanks last := by
  have hle := h.opening_le_closing
  have hlen := (eq_of_sourceLines hown).2
  obtain ⟨last, hlast, -⟩ := h.closing_found
  refine ⟨last, ?_, fun hblanks => ?_⟩
  · rw [List.getLast?_eq_getElem?, ← getElem?_of_sourceLines hown (by omega), ← hlast]
    exact congrArg (lines[·]?) (by omega)
  · have hcloses := Marker.closesAt_of_standsIn (h.standsIn_closing hlast)
    cases hstyle : block.style with
    | keyword =>
        rw [hstyle] at hcloses
        obtain ⟨front, back, rfl, -⟩ := hcloses
        have hword : Text.isWord 'e' = true :=
          @Marker.isWord_of_mem_keyword .closing 'e' (by simp [Side.keyword])
        rw [Text.isWord_of_isBlank (hblanks 'e' (by simp))] at hword
        cases hword
    | brace =>
        rw [hstyle] at hcloses
        obtain ⟨front, n, rfl, -⟩ := hcloses
        exact absurd (hblanks '}' (by simp)) (by simp)

theorem Encloses.not_blanks {lines own : List Text} {cursor : Nat} {block : Block}
    (h : Encloses lines cursor block) (hown : sourceLines lines block = .ok own) :
    ¬ ∀ line ∈ own, Text.Blanks line := by
  obtain ⟨last, hlast, hseen⟩ := h.exists_getLast? hown
  exact fun hblanks => hseen (hblanks last (List.mem_of_getLast? hlast))

theorem dropWhile_squeeze_ne_nil {lines : List Text}
    (hseen : ¬ ∀ line ∈ lines, Text.Blanks line) :
    (Text.squeeze (List.intercalate [' '] lines)).dropWhile Text.isBlank ≠ [] := by
  intro hnil
  refine hseen fun line hline c hc => ?_
  have hblanks : Text.Blanks (Text.squeeze (List.intercalate [' '] lines)) :=
    List.dropWhile_eq_nil_iff.1 hnil
  exact Text.blanks_of_squeeze hblanks c (mem_intercalate hc hline)

/-- A block with something on its last line is converted to one that has, too. -/
theorem Converts.getLast?_ne_nil {block : Block} {own new : List Text} {last : Text}
    (h : Converts block own new) (hlast : own.getLast? = some last)
    (hseen : ¬ Text.Blanks last) : new.getLast? ≠ some [] := by
  have hnil : Text.Blanks [] := fun _ hc => absurd hc List.not_mem_nil
  intro hnew
  cases h with
  | folded =>
      rw [List.getLast?_singleton] at hnew
      injection hnew with hnew
      refine dropWhile_squeeze_ne_nil (fun hblanks => hseen ?_)
        (List.append_eq_nil_iff.1 hnew).2
      exact blanks_of_bracesForKeywords hblanks last (List.mem_of_getLast? hlast)
  | swapped =>
      rw [← List.cons_append, List.getLast?_concat] at hlast hnew
      injection hlast with hlast
      injection hnew with hnew
      subst hlast
      exact hseen (blanks_of_replaceKeyword Text.isBlank_closingBrace (hnew ▸ hnil))
  | unfolded =>
      injection hnew with hnew
      exact absurd (List.append_eq_nil_iff.1 hnew).2 (by simp [Side.keyword])
  | cut =>
      rw [← List.cons_append, List.getLast?_concat] at hnew
      injection hnew with hnew
      exact absurd (List.append_eq_nil_iff.1 hnew).2 (by simp [Side.keyword])

/-! ## Blanks in the new lines -/

section

variable {c : Char} (hc : Text.isBlank c = true)
include hc

theorem ne_of_isBlank {d : Char} (hd : Text.isBlank d = false) : c ≠ d := by
  intro heq
  rw [heq, hd] at hc
  cases hc

theorem not_mem_replaceKeyword {side : Side} {column : Nat} {brace : Char}
    {line : Text} (hbrace : Text.isBlank brace = false) (h : c ∉ line) :
    c ∉ replaceKeyword side column [brace] line := by
  rcases replaceKeyword_cases side column [brace] line with heq | ⟨k, heq⟩
  · rwa [heq]
  · rw [heq]
    simp only [List.mem_append, List.mem_singleton, not_or]
    exact ⟨fun hmem => h (List.mem_of_mem_take hmem), ne_of_isBlank hc hbrace,
      fun hmem => h (List.mem_of_mem_drop hmem)⟩

theorem getLast?_replaceKeyword {side : Side} {column : Nat} {brace : Char}
    {line : Text} (hbrace : Text.isBlank brace = false) (h : line.getLast? ≠ some c) :
    (replaceKeyword side column [brace] line).getLast? ≠ some c := by
  rcases replaceKeyword_cases side column [brace] line with heq | ⟨k, heq⟩
  · rwa [heq]
  · rw [heq, ← List.append_assoc, List.getLast?_append, List.getLast?_concat,
      List.getLast?_drop]
    split
    · simpa using Ne.symm (ne_of_isBlank hc hbrace)
    · cases hl : line.getLast? with
      | none => simpa using Ne.symm (ne_of_isBlank hc hbrace)
      | some d => rwa [hl] at h

theorem getLast?_keywordOpening (line : Text) (column : Nat) :
    (keywordOpening line column (arguments? line)).getLast? ≠ some c := by
  rw [keywordOpening]
  cases hargs : arguments? line with
  | none =>
      rw [Option.map_none, Option.getD_none, List.append_nil]
      exact Text.getLast?_append_ne (by simp [Side.keyword])
        (not_mem_keyword hc .opening)
  | some list =>
      have hlast := (mem_of_mem_arguments? hargs).2
      rw [Option.map_some, Option.getD_some, List.getLast?_append,
        List.getLast?_cons, hlast]
      simpa using Ne.symm (ne_of_isBlank hc Text.isBlank_bar)

variable (hne : c ≠ ' ')
include hne

theorem not_mem_fold {lines : List Text} (h : ∀ line ∈ lines, c ∉ line) :
    c ∉ fold lines := by
  rw [fold, List.mem_append, not_or]
  refine ⟨?_, fun hmem => Text.not_mem_squeeze hc hne _
    ((List.dropWhile_sublist _).mem hmem)⟩
  cases lines with
  | nil => exact List.not_mem_nil
  | cons first rest =>
      exact fun hmem => h first List.mem_cons_self
        ((List.takeWhile_sublist _).mem hmem)

theorem not_mem_keywordOpening {line : Text} {column : Nat} (h : c ∉ line) :
    c ∉ keywordOpening line column (arguments? line) := by
  have hkeyword := not_mem_keyword hc .opening
  rw [keywordOpening, List.append_assoc]
  simp only [List.mem_append, not_or]
  refine ⟨fun hmem => h (List.mem_of_mem_take hmem), hkeyword, ?_⟩
  cases hargs : arguments? line with
  | none => exact List.not_mem_nil
  | some list =>
      have hlist := (mem_of_mem_arguments? hargs).1
      show c ∉ ' ' :: list
      simpa [hne] using fun hmem => h (hlist c hmem)

theorem Converts.not_mem {block : Block} {own new : List Text}
    (h : Converts block own new) (hown : ∀ line ∈ own, c ∉ line) :
    ∀ line ∈ new, c ∉ line := by
  have hopen := Text.isBlank_openingBrace
  have hclose := Text.isBlank_closingBrace
  have hkeyword := not_mem_keyword hc .closing
  cases h with
  | folded =>
      intro line hline
      rw [List.mem_singleton.1 hline]
      refine not_mem_fold hc hne (forall_mem_modify
        (fun _ => not_mem_replaceKeyword hc hopen) (forall_mem_modify
          (fun _ => not_mem_replaceKeyword hc hclose) hown))
  | swapped =>
      simp only [List.forall_mem_cons, List.forall_mem_append] at hown ⊢
      exact ⟨not_mem_replaceKeyword hc hopen hown.1, hown.2.1,
        not_mem_replaceKeyword hc hclose hown.2.2.1, hown.2.2.2⟩
  | @unfolded line =>
      have hline := hown line List.mem_cons_self
      have hindent : c ∉ Text.indentation line := fun hmem =>
        hline ((List.takeWhile_sublist _).mem hmem)
      have hbody : c ∉ inlineBody line block (arguments? line) := fun hmem =>
        hline (mem_of_mem_inlineBody hmem)
      have hinner : c ∉ innerIndent := by simp [innerIndent, hne]
      simp only [List.forall_mem_cons, List.mem_append, not_or]
      exact ⟨not_mem_keywordOpening hc hne hline, ⟨⟨hindent, hinner⟩, hbody⟩,
        ⟨hindent, hkeyword⟩, fun _ hmem => absurd hmem List.not_mem_nil⟩
  | @cut first last middle =>
      simp only [List.forall_mem_cons, List.forall_mem_append] at hown ⊢
      have hlast : c ∉ last.take block.closing.column ++ Side.closing.keyword := by
        rw [List.mem_append, not_or]
        exact ⟨fun hmem => hown.2.2.1 (List.mem_of_mem_take hmem), hkeyword⟩
      exact ⟨not_mem_keywordOpening hc hne hown.1, hown.2.1, hlast, hown.2.2.2⟩

/-! ## Blanks at the ends of the new lines -/

theorem getLast?_fold {lines : List Text}
    (hseen : ¬ ∀ line ∈ lines, Text.Blanks line) :
    (fold lines).getLast? ≠ some c := by
  refine Text.getLast?_append_ne (dropWhile_squeeze_ne_nil hseen) fun hmem => ?_
  exact Text.not_mem_squeeze hc hne _ ((List.dropWhile_sublist _).mem hmem)

/-- No line but the last ends in the blank, if none did. -/
theorem Converts.getLast?_dropLast {block : Block} {own new : List Text}
    (h : Converts block own new)
    (hown : ∀ line ∈ own.dropLast, line.getLast? ≠ some c) :
    ∀ line ∈ new.dropLast, line.getLast? ≠ some c := by
  cases h with
  | folded => intro line hline; exact absurd hline (by simp)
  | swapped =>
      rw [← List.cons_append, List.dropLast_concat, List.forall_mem_cons] at hown ⊢
      exact ⟨getLast?_replaceKeyword hc Text.isBlank_openingBrace hown.1, hown.2⟩
  | @unfolded line =>
      have hbody : (Text.indentation line ++ innerIndent ++
          inlineBody line block (arguments? line)).getLast? ≠ some c := by
        have hlast := getLast?_inlineBody line block (arguments? line)
        rw [List.getLast?_append]
        cases hl : (inlineBody line block (arguments? line)).getLast? with
        | none =>
            rw [Option.none_or]
            exact Text.getLast?_append_ne (by simp [innerIndent])
              (by simp [innerIndent, hne])
        | some d =>
            rw [hl] at hlast
            simpa using Ne.symm (ne_of_isBlank hc hlast)
      simp only [List.dropLast_cons_cons, List.dropLast_singleton,
        List.forall_mem_cons]
      exact ⟨getLast?_keywordOpening hc line _, hbody,
        fun _ hmem => absurd hmem List.not_mem_nil⟩
  | @cut first last middle =>
      rw [← List.cons_append, List.dropLast_concat, List.forall_mem_cons] at hown ⊢
      exact ⟨getLast?_keywordOpening hc first _, hown.2⟩

/-- The last line does not end in the blank, if the last one did not. -/
theorem Converts.getLast?_last {block : Block} {own new : List Text}
    (h : Converts block own new) (hseen : ¬ ∀ line ∈ own, Text.Blanks line)
    (hown : ∀ line, own.getLast? = some line → line.getLast? ≠ some c) :
    ∀ line, new.getLast? = some line → line.getLast? ≠ some c := by
  have hkeyword := not_mem_keyword hc .closing
  have hword : Side.closing.keyword ≠ [] := by simp [Side.keyword]
  intro line hline
  cases h with
  | folded =>
      cases hline
      exact getLast?_fold hc hne fun hblanks =>
        hseen (blanks_of_bracesForKeywords hblanks)
  | @swapped first last middle =>
      rw [← List.cons_append, List.getLast?_concat] at hline
      cases hline
      refine getLast?_replaceKeyword hc Text.isBlank_closingBrace (hown last ?_)
      rw [← List.cons_append, List.getLast?_concat]
  | unfolded =>
      cases hline
      exact Text.getLast?_append_ne hword hkeyword
  | cut =>
      rw [← List.cons_append, List.getLast?_concat] at hline
      cases hline
      exact Text.getLast?_append_ne hword hkeyword

end

end Block

end RubyBlocks
