import RubyBlocks.Proofs.Conversion

/-!
# Words that run into their neighbours

A brace is a delimiter next to any character, a keyword only as a word of its own.
The conversion to keywords writes `do` and `end` where the braces stood and looks at
neither neighbour, so a word right before a brace swallows the keyword: `x{ y }`
opens with `xdo` afterwards, and no search takes that for a block.

What follows a written keyword is the end of the line or a space, so only the
character before it matters, and `Apart` says that it is harmless. For `do` that is
all there is to it: the block was found by its brace, so there is no other `do`
before it. An `end` has a line to itself when the block was on one line; otherwise
the search may also be content with an earlier one. `toggle_brace_stands_iff` puts
the two together.
-/

namespace RubyBlocks

namespace Marker

/-- A word may start at this column: none reaches up to it. -/
def Apart (line : Text) (column : Nat) : Prop :=
  (line.take column).getLast?.any Text.isWord = false

instance (line : Text) (column : Nat) : Decidable (Apart line column) :=
  inferInstanceAs (Decidable (_ = false))

theorem find_keyword_isSome_iff {side : Side} {line : Text} :
    (find side .keyword line 0).isSome = true ↔
      ∃ k, StandsIn side .keyword line k := by
  cases hf : find side .keyword line 0 with
  | none =>
      refine ⟨fun h => absurd h (by simp), fun ⟨k, hs⟩ => ?_⟩
      exact absurd hs (find_eq_none_iff.1 hf k (Nat.zero_le _))
  | some k => exact ⟨fun _ => ⟨k, (find_eq_some_iff.1 hf).2.1⟩, fun _ => rfl⟩

/-- A keyword at the end of a line is found, or one before it that it does not run
into. -/
theorem find_keyword_concat_isSome_iff {side : Side} {front : Text} :
    (find side .keyword (front ++ side.keyword) 0).isSome = true ↔
      front.getLast?.any Text.isWord = false ∨
        ∃ k, k + side.keyword.length < front.length ∧
          StandsIn side .keyword front k := by
  obtain ⟨d, word, hword⟩ : ∃ d word, side.keyword = d :: word := by
    cases side <;> exact ⟨_, _, rfl⟩
  have hmem : d ∈ side.keyword := by rw [hword]; simp
  have hstart := isWord_of_mem_keyword hmem
  rw [find_keyword_isSome_iff]
  constructor
  · rintro ⟨k, hs⟩
    obtain ⟨f, b, heq, rfl, hfront, hback⟩ := standsIn_keyword_iff.1 hs
    rw [← List.append_assoc] at heq
    rcases List.append_eq_append_iff.1 heq with ⟨t, ht, hk⟩ | ⟨t, ht, hb⟩
    · -- What follows the word found is an end piece of the last one.
      cases b with
      | nil =>
          rw [List.append_nil] at hk
          rw [← hk] at ht
          rw [← List.append_cancel_right ht]
          exact Or.inl hfront
      | cons c b =>
          have hc : c ∈ side.keyword := by rw [hk]; simp
          simp [isWord_of_mem_keyword hc] at hback
    · cases t with
      | nil =>
          rw [hb, List.nil_append, hword] at hback
          simp [hstart] at hback
      | cons c t =>
          rw [hb, List.cons_append] at hback
          refine Or.inr ⟨f.length, ?_, ?_⟩
          · rw [ht, List.length_append, List.length_append, List.length_cons]
            omega
          · rw [ht, List.append_assoc]
            exact standsIn_keyword_iff.2 ⟨f, c :: t, rfl, rfl, hfront, hback⟩
  · rintro (hfront | ⟨k, hk, hs⟩)
    · exact ⟨front.length, standsIn_keyword_iff.2
        ⟨front, [], by rw [List.append_nil], rfl, hfront, rfl⟩⟩
    · obtain ⟨f, b, rfl, rfl, hfront, hback⟩ := standsIn_keyword_iff.1 hs
      cases b with
      | nil => simp at hk
      | cons c b =>
          refine ⟨f.length, standsIn_keyword_iff.2
            ⟨f, c :: b ++ side.keyword, ?_, rfl, hfront, hback⟩⟩
          simp only [List.append_assoc]

/-- Before the brace that a search went for there is no keyword. -/
theorem find_keyword_take {line : Text} {column : Nat}
    (hbrace : find .opening .brace (stripTildes line) 0 = some column)
    (hkeyword : find .opening .keyword (stripTildes line) 0 = none) :
    column ≤ line.length ∧ find .opening .keyword (line.take column) 0 = none := by
  obtain ⟨-, hs, -⟩ := find_eq_some_iff.1 hbrace
  obtain ⟨n, hn⟩ := exists_eq_stripTildes_append line
  have hlt := hs.lt_length
  simp only [StandsIn, standsAt, Bool.and_eq_true, beq_iff_eq] at hs
  obtain ⟨back, hback⟩ := List.head?_eq_some_iff.1 hs.1
  have hcut := List.take_append_drop column (stripTildes line)
  have htake : line.take column = (stripTildes line).take column := by
    rw [hn, List.take_append_of_le_length (Nat.le_of_lt hlt), ← hn]
  rw [hback] at hcut
  rw [← hcut, find_keyword_separated_eq_none_iff Text.isWord_openingBrace]
    at hkeyword
  refine ⟨?_, by rw [htake]; exact hkeyword.1⟩
  rw [hn, List.length_append]
  omega

end Marker

namespace Block

theorem find_keywordOpening_iff {line : Text} {column : Nat}
    {arguments : Option Text} (hle : column ≤ line.length)
    (hfree : Marker.find .opening .keyword (line.take column) 0 = none) :
    Marker.find .opening .keyword (keywordOpening line column arguments) 0 =
        some column ↔ Marker.Apart line column := by
  have hlen : (line.take column).length = column := List.length_take_of_le hle
  have hback : ((arguments.map (' ' :: ·)).getD []).head?.any Text.isWord =
      false := by
    cases arguments with
    | none => rfl
    | some list => exact Text.isWord_space
  rw [keywordOpening, List.append_assoc]
  refine ⟨fun h => ?_, fun h => ?_⟩
  · have hs : Marker.StandsIn .opening .keyword (line.take column ++
        (Side.opening.keyword ++ (arguments.map (' ' :: ·)).getD []))
          (line.take column).length := by
      rw [hlen]
      exact (Marker.find_eq_some_iff.1 h).2.1
    exact Marker.getLast?_of_standsIn hs
  · have hfind := Marker.find_keyword_append hfree h hback
    rwa [hlen] at hfind

theorem find_indentation_isSome (line : Text) :
    (Marker.find .closing .keyword
      (Text.indentation line ++ Side.closing.keyword) 0).isSome = true := by
  refine Marker.find_keyword_concat_isSome_iff.2 (Or.inl ?_)
  cases hl : (Text.indentation line).getLast? with
  | none => rfl
  | some c =>
      exact Text.isWord_of_isBlank
        (Text.blanks_takeWhile line c (List.mem_of_getLast? hl))

/-- When the keywords that replace a pair of braces are keywords again. -/
theorem toggle_brace_stands_iff {lines : List Text} {cursor : Nat} {block : Block}
    (hblock : enclosing lines cursor = .ok block) (hstyle : block.style = .brace) :
    ∃ first last toggled opened closed,
      lines[block.opening.line]? = some first ∧
      lines[block.closing.line]? = some last ∧
      toggle lines cursor = .ok toggled ∧
      toggled.lines.head? = some opened ∧
      toggled.lines.getLast? = some closed ∧
      (Marker.find .opening .keyword opened 0 = some block.opening.column ↔
        Marker.Apart first block.opening.column) ∧
      ((Marker.find .closing .keyword closed 0).isSome = true ↔
        block.opening.line = block.closing.line ∨
          Marker.Apart last block.closing.column ∨
          ∃ k, k + Side.closing.keyword.length < block.closing.column ∧
            Marker.StandsIn .closing .keyword (last.take block.closing.column)
              k) := by
  have hencl := enclosing_eq_ok_iff.1 hblock
  have hle := hencl.opening_le_closing
  have hlt := hencl.closing_lt
  obtain ⟨first, hfirst⟩ : ∃ first, lines[block.opening.line]? = some first :=
    ⟨_, List.getElem?_eq_getElem (by omega)⟩
  obtain ⟨last, hlast⟩ : ∃ last, lines[block.closing.line]? = some last :=
    ⟨_, List.getElem?_eq_getElem hlt⟩
  obtain ⟨hbrace, hkeyword⟩ := hencl.find_opening hfirst
  rw [hstyle] at hbrace
  obtain ⟨hcolumn, hfree⟩ := Marker.find_keyword_take hbrace (hkeyword hstyle)
  have hconverted : converted lines block = toKeywords lines block := by
    rw [converted, hstyle]
  rcases sourceLines_cases hle hfirst hlast with ⟨hone, hown⟩ | ⟨hmore, middle, hown⟩
  · refine ⟨first, last, _, _, _, hfirst, hlast,
      toggle_eq_ok hencl (hconverted.trans (toKeywords_single hown)), rfl, rfl,
      find_keywordOpening_iff hcolumn hfree, ?_⟩
    exact ⟨fun _ => Or.inl hone, fun _ => find_indentation_isSome first⟩
  · have hclosing : (last.take block.closing.column).length =
        block.closing.column := by
      have hclose := hencl.find_closing hlast
      have hbound := (Marker.find_eq_some_iff.1 hclose).2.1.lt_length
      obtain ⟨n, hn⟩ := Marker.exists_eq_stripTildes_append last
      refine List.length_take_of_le ?_
      rw [hn, List.length_append]
      omega
    refine ⟨first, last, _, _, _, hfirst, hlast,
      toggle_eq_ok hencl (hconverted.trans (toKeywords_long hown)), rfl,
      by rw [← List.cons_append, List.getLast?_concat],
      find_keywordOpening_iff hcolumn hfree, ?_⟩
    rw [Marker.find_keyword_concat_isSome_iff, hclosing]
    refine ⟨Or.inr, fun h => ?_⟩
    rcases h with h | h
    · omega
    · exact h

theorem toggle_brace_swallowed :
    ∃ toggled opened, toggle [['x', '{', ' ', 'y', ' ', '}']] 0 = .ok toggled ∧
      toggled.lines.head? = some opened ∧
      Marker.find .opening .keyword opened 0 ≠ some 1 := by
  obtain ⟨first, -, toggled, opened, -, hfirst, -, htoggle, hopened, -, hiff, -⟩ :=
    @toggle_brace_stands_iff [['x', '{', ' ', 'y', ' ', '}']] 0
      ⟨.brace, ⟨0, 1⟩, ⟨0, 5⟩⟩ (by decide +kernel) rfl
  injection hfirst with hfirst
  refine ⟨toggled, opened, htoggle, hopened, fun hfind => ?_⟩
  have hapart := hiff.1 hfind
  rw [← hfirst] at hapart
  exact absurd hapart (by decide +kernel)

/-- So not every pair of braces turns into a pair of keywords. -/
theorem not_forall_toggle_brace_stands :
    ¬ ∀ (lines : List Text) (cursor : Nat) (block : Block) (toggled : Toggled)
        (opened closed : Text),
      enclosing lines cursor = .ok block → block.style = .brace →
      toggle lines cursor = .ok toggled → toggled.lines.head? = some opened →
      toggled.lines.getLast? = some closed →
      Marker.find .opening .keyword opened 0 = some block.opening.column ∧
        (Marker.find .closing .keyword closed 0).isSome = true := by
  intro h
  obtain ⟨hfind, -⟩ := h [['x', '{', ' ', 'y', ' ', '}']] 0
    ⟨.brace, ⟨0, 1⟩, ⟨0, 5⟩⟩
    ⟨[['x', 'd', 'o'], [' ', ' ', 'y'], ['e', 'n', 'd']], 0, 0⟩
    ['x', 'd', 'o'] ['e', 'n', 'd'] (by decide +kernel) rfl (by decide +kernel)
    rfl rfl
  exact absurd hfind (by decide +kernel)

end Block

end RubyBlocks
