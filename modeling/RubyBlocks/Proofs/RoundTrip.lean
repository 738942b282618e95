import RubyBlocks.Proofs.Layout
import RubyBlocks.Proofs.Splice

/-!
# There and back again

Toggling a block twice gives the text back that one started with, for the blocks on
which the two conversions undo each other. Each proof has the same four steps. The
first toggle finds its block and converts it. The new lines stand where the old ones
stood, so the document is searched again with everything around the block unchanged.
The second search finds the same block in its other style. And its conversion gives
the old lines, which go back into the text with the endings they had.

`toggle_toggle` takes these steps once. What is left for a kind of block is what its
conversion writes, and that the result is found and converted back wherever it
stands.
-/

namespace RubyBlocks

namespace Document

/-- The second toggle undoes the first, if it finds the block again on the new lines
and answers the old ones. -/
theorem toggle_toggle {doc : Document} {cursor : Nat} {block : Block}
    {own init : List Text} {last : Text} {c : Char} (hu : doc.Uniform)
    (hblock : Block.Encloses doc.lines cursor block)
    (hown : Block.sourceLines doc.lines block = .ok own)
    (hnew : Block.converted doc.lines block = .ok (init ++ [last ++ [c]]))
    (hc : c ≠ '\r') (hfeed : ∀ line ∈ init ++ [last ++ [c]], '\n' ∉ line)
    (hlf : doc.lineEnding = .lf → ∀ line ∈ init, line.getLast? ≠ some '\r')
    (hstray : block.closing.line + 1 = doc.lines.length →
      doc.text.getLast? ≠ some '\r')
    (hback : ∀ before after : List Text, before.length = block.opening.line →
      Block.toggle (before ++ ((init ++ [last ++ [c]]) ++ after)) before.length =
        .ok ⟨own, before.length, before.length + init.length⟩) :
    ∃ first second, doc.toggle cursor = .ok first ∧
      first.2.toggled.startLine = block.opening.line ∧
      first.1.toggle block.opening.line = .ok second ∧
      second.1.text = doc.text := by
  obtain ⟨hlines, -⟩ := Block.eq_of_sourceLines hown
  have hlt := hblock.closing_lt
  have hle := hblock.opening_le_closing
  have hends : ∀ line, (init ++ [last ++ [c]]).getLast? = some line →
      line.getLast? = some c := by
    intro line hl
    rw [List.getLast?_concat] at hl
    injection hl with hl
    rw [← hl, List.getLast?_concat]
  let toggled : Toggled := ⟨init ++ [last ++ [c]], block.opening.line,
    block.closing.line⟩
  have hreplaces : doc.Replaces toggled :=
    ⟨hle, by rw [← length_lines]; exact hlt, getElem?_rawLines_ne_nil hblock,
      by simp [toggled], hfeed⟩
  have hshort : doc.lineEnding = .lf → ∀ line ∈ toggled.lines,
      line.getLast? ≠ some '\r' := by
    intro he line hline
    rcases List.mem_append.1 hline with h | h
    · exact hlf he line h
    · rw [List.mem_singleton.1 h, List.getLast?_concat]
      simpa using hc
  have hafter : (doc.apply toggled).lines = doc.lines.take block.opening.line ++
      ((init ++ [last ++ [c]]) ++ doc.lines.drop (block.closing.line + 1)) := by
    refine lines_apply hu hreplaces hshort fun line hl => ?_
    rw [hends line hl]
    simpa using hc
  have hlen : (doc.lines.take block.opening.line).length = block.opening.line :=
    List.length_take_of_le (by omega)
  have hsecond := hback _ (doc.lines.drop (block.closing.line + 1)) hlen
  rw [← hafter, hlen] at hsecond
  refine ⟨_, _, toggle_eq_ok (Block.toggle_eq_ok hblock hnew), rfl,
    toggle_eq_ok hsecond, ?_⟩
  refine text_apply_apply hu hreplaces hshort (fun hnil => ?_) ?_ rfl ?_ hlines.symm
  · have := hends [] hnil
    exact absurd this (by simp)
  · rw [← length_lines]
    exact hstray
  · simp [Nat.add_assoc]

/-! ## Short blocks -/

/-- A block of keywords on three lines comes back from being folded. -/
theorem toggle_toggle_unfolded {doc : Document} {cursor : Nat} {block : Block}
    {p : PlainBlock} (hu : doc.Uniform)
    (hblock : Block.enclosing doc.lines cursor = .ok block)
    (hstyle : block.style = .keyword)
    (hown : Block.sourceLines doc.lines block = .ok p.unfolded)
    (hopening : block.opening.column = p.front.length)
    (hstray : block.closing.line + 1 = doc.lines.length →
      doc.text.getLast? ≠ some '\r')
    (hne : p.front ≠ []) (hhash : p.front.getLast? ≠ some '#')
    (hbrace : Marker.find .opening .brace p.front 0 = none)
    (htail : Marker.find .opening .keyword p.tail 0 = none)
    (hbody : Marker.find .opening .keyword p.body 0 = none) :
    ∃ first second, doc.toggle cursor = .ok first ∧
      first.1.toggle first.2.toggled.startLine = .ok second ∧
      second.1.text = doc.text := by
  have hencl := Block.enclosing_eq_ok_iff.1 hblock
  have hlen := (Block.eq_of_sourceLines hown).2
  rw [show p.unfolded.length = 3 from rfl] at hlen
  have hfirst := Block.getElem?_of_sourceLines hown (i := 0) (Nat.succ_pos _)
  have hlast := Block.getElem?_of_sourceLines hown (i := 2) (Nat.lt_succ_self _)
  rw [show block.opening.line + 2 = block.closing.line by omega] at hlast
  -- The `do` stands where the search found it, and it was the first one.
  have hopen := (hencl.find_opening hfirst).1
  rw [hstyle, Marker.find_keyword_stripTildes, hopening] at hopen
  have hfront := Marker.find_keyword_front hopen
  have hword := Marker.getLast?_of_standsIn (Marker.find_eq_some_iff.1 hopen).2.1
  have hclose := hencl.find_closing hlast
  rw [hstyle, Block.closingStart, if_neg (by omega), Marker.find_keyword_stripTildes,
    p.find_closing_indent] at hclose
  injection hclose with hclosing
  have hfeed : '\n' ∉ p.indent := by
    have hmem := not_mem_of_mem_lines (List.mem_of_getElem? hlast)
    exact fun h => hmem (List.mem_append_left _ h)
  have hnew : Block.converted doc.lines block = .ok [p.folded] := by
    rw [Block.converted, hstyle]
    exact p.toBraces_unfolded hown hopening hclosing.symm hword
  have hcut : [p.folded] = [] ++ [(p.front ++ '{' :: p.inner) ++ ['}']] := by
    simp [PlainBlock.folded]
  have hfree : ∀ line ∈ [p.folded], '\n' ∉ line := by
    intro line hline
    rw [List.mem_singleton.1 hline]
    exact p.not_mem_folded Text.isBlank_lineFeed (by decide) hfeed
  have hback : ∀ before after : List Text, before.length = block.opening.line →
      Block.toggle (before ++ ([p.folded] ++ after)) before.length =
        .ok ⟨p.unfolded, before.length, before.length⟩ := fun before after _ =>
    p.toggle_folded hne hhash hbrace (p.find_keyword_folded hfront htail hbody) hfeed
  rw [hcut] at hnew hfree hback
  obtain ⟨first, second, htoggle, hstart, hagain, htext⟩ :=
    toggle_toggle hu hencl hown hnew (by decide) hfree (by simp) hstray hback
  exact ⟨first, second, htoggle, hstart.symm ▸ hagain, htext⟩

/-- From the middle of a block that ends a text without ending its last line. -/
theorem toggle_toggle_unfolded_unterminated :
    let doc : Document := ⟨['a', '\r', '\n', ' ', 'f', ' ', 'd', 'o', ' ', '|', 'x',
      '|', '\r', '\n', ' ', ' ', ' ', 'y', '\r', '\n', ' ', 'e', 'n', 'd'],
      ⟨0, 0⟩, 0, .crlf⟩
    ∃ first second, doc.toggle 2 = .ok first ∧
      first.1.toggle first.2.toggled.startLine = .ok second ∧
      second.1.text = doc.text :=
  @toggle_toggle_unfolded _ 2 ⟨.keyword, ⟨1, 3⟩, ⟨3, 1⟩⟩
    ⟨[' '], ['f', ' '], some ['x'], ['y'], by decide +kernel, by decide +kernel,
      by decide +kernel, by decide +kernel, by decide +kernel, by decide +kernel,
      by decide, by decide⟩
    (by decide +kernel) (by decide +kernel) rfl (by decide +kernel) rfl
    (by decide +kernel) (by decide) (by decide) (by decide +kernel)
    (by decide +kernel) (by decide +kernel)

/-- A block of braces on one line comes back from being unfolded. -/
theorem toggle_toggle_folded {doc : Document} {cursor : Nat} {block : Block}
    {p : PlainBlock} {c : Char} (hu : doc.Uniform)
    (hblock : Block.enclosing doc.lines cursor = .ok block)
    (hstyle : block.style = .brace)
    (hown : Block.sourceLines doc.lines block = .ok [p.folded])
    (hopening : block.opening.column = p.front.length)
    (hstray : block.closing.line + 1 = doc.lines.length →
      doc.text.getLast? ≠ some '\r')
    (hlast : p.front.getLast? = some c) (hc : Text.isWord c = false)
    (htail : Marker.find .closing .keyword p.tail 0 = none)
    (hbody : Marker.find .closing .keyword p.body 0 = none) :
    ∃ first second, doc.toggle cursor = .ok first ∧
      first.1.toggle cursor = .ok second ∧ second.1.text = doc.text := by
  have hencl := Block.enclosing_eq_ok_iff.1 hblock
  have hlen := (Block.eq_of_sourceLines hown).2
  rw [List.length_singleton] at hlen
  have hle := hencl.opening_le
  have hge := hencl.le_closing
  have hline := Block.getElem?_of_sourceLines hown (i := 0) (by simp)
  have hopen := (hencl.find_opening hline).2 hstyle
  rw [p.stripTildes_folded, PlainBlock.folded,
    Marker.find_keyword_separated_eq_none_iff Text.isWord_openingBrace] at hopen
  rw [show block.opening.line + 0 = block.closing.line by omega] at hline
  have hclose := hencl.find_closing hline
  rw [hstyle, Block.closingStart, if_pos (by omega), p.stripTildes_folded, hopening,
    p.find_closing_folded] at hclose
  injection hclose with hclosing
  have hfeed : '\n' ∉ p.indent := by
    have hmem := not_mem_of_mem_lines (List.mem_of_getElem? hline)
    intro h
    exact hmem (List.mem_append_left _ (List.mem_append_left _ h))
  have hnew : Block.converted doc.lines block = .ok p.unfolded := by
    rw [Block.converted, hstyle]
    exact p.toKeywords_folded hown hopening hclosing.symm hfeed
  have hcut : p.unfolded = [p.front ++ (Side.opening.keyword ++ p.tail),
      p.indent ++ (Block.innerIndent ++ p.body)] ++
        [(p.indent ++ ['e', 'n']) ++ ['d']] := by
    simp [PlainBlock.unfolded, Side.keyword]
  have hends : ∀ line ∈ p.unfolded, line.getLast? ≠ some '\r' :=
    p.getLast?_unfolded Text.isBlank_carriageReturn (by decide)
  have hfree : ∀ line ∈ p.unfolded, '\n' ∉ line :=
    p.not_mem_unfolded Text.isBlank_lineFeed (by decide) hfeed
  have hback : ∀ before after : List Text, before.length = block.opening.line →
      Block.toggle (before ++ (p.unfolded ++ after)) before.length =
        .ok ⟨[p.folded], before.length, before.length + 2⟩ := fun before after _ =>
    p.toggle_unfolded hlast hc hopen.1 htail hbody
  rw [hcut] at hnew hends hfree hback
  obtain ⟨first, second, htoggle, -, hagain, htext⟩ :=
    toggle_toggle hu hencl hown hnew (by decide) hfree
      (fun _ line h => hends line (List.mem_append_left _ h)) hstray hback
  rw [show block.opening.line = cursor by omega] at hagain
  exact ⟨first, second, htoggle, hagain, htext⟩

theorem toggle_toggle_folded_arguments :
    let doc : Document := ⟨['f', ' ', '{', ' ', '|', 'x', '|', ' ', 'y', ' ', '}',
      '\n'], ⟨0, 0⟩, 0, .lf⟩
    ∃ first second, doc.toggle 0 = .ok first ∧ first.1.toggle 0 = .ok second ∧
      second.1.text = doc.text :=
  @toggle_toggle_folded _ 0 ⟨.brace, ⟨0, 2⟩, ⟨0, 10⟩⟩
    ⟨[], ['f', ' '], some ['x'], ['y'], by decide +kernel, by decide +kernel,
      by decide +kernel, by decide +kernel, by decide +kernel, by decide +kernel,
      by decide, by decide⟩ ' '
    (by decide +kernel) (by decide +kernel) rfl (by decide +kernel) rfl
    (by decide +kernel) rfl (by decide +kernel) (by decide +kernel)
    (by decide +kernel)

end Document

/-! ## Long blocks -/

namespace Block

theorem toBraces_long {lines middle : List Text} {block : Block}
    {front tail last : Text}
    (hown : sourceLines lines block =
      .ok ((front ++ (Side.opening.keyword ++ tail)) ::
        (middle ++ [last ++ Side.closing.keyword])))
    (hlong : 2 ≤ middle.length) (hopening : block.opening.column = front.length)
    (hclosing : block.closing.column = last.length)
    (hopen : Marker.StandsIn .opening .keyword
      (front ++ (Side.opening.keyword ++ tail)) front.length)
    (hclose : Marker.StandsIn .closing .keyword (last ++ Side.closing.keyword)
      last.length) :
    toBraces lines block =
      .ok ((front ++ '{' :: tail) :: (middle ++ [last ++ ['}']])) := by
  rw [← List.append_nil Side.closing.keyword] at hclose
  have hlast := replaceKeyword_append ['}'] hclose
  rw [List.append_nil, List.append_nil] at hlast
  rw [toBraces_eq hown, if_pos hlong, hopening, hclosing, hlast,
    replaceKeyword_append _ hopen]
  rfl

/-- A block of braces with lines of its own in between, found and converted. -/
theorem toggle_long {before after middle : List Text} {front last : Text}
    {params : Option Text} (hne : front ≠ []) (hhash : front.getLast? ≠ some '#')
    (hbrace : Marker.find .opening .brace front 0 = none)
    (hkeyword : Marker.find .opening .keyword front 0 = none)
    (htail : Marker.find .opening .keyword (argumentTail params) 0 = none)
    (hbars : '|' ∉ front) (hfeed : '\n' ∉ front ++ '{' :: argumentTail params)
    (hmiddle : ∀ line ∈ middle, (Marker.stripTildes line).getLast? ≠ some '}') :
    toggle (before ++ (((front ++ '{' :: argumentTail params) ::
        (middle ++ [last ++ ['}']])) ++ after)) before.length =
      .ok ⟨(front ++ (Side.opening.keyword ++ argumentTail params)) ::
        (middle ++ [last ++ Side.closing.keyword]), before.length,
          before.length + (middle.length + 1)⟩ := by
  obtain ⟨init, d, heq, hd⟩ := exists_opened_eq front params
  have hstrip : Marker.stripTildes (front ++ '{' :: argumentTail params) =
      front ++ '{' :: argumentTail params := by
    rw [heq]
    refine Marker.stripTildes_concat ?_
    rcases hd with rfl | rfl <;> decide
  have hopened : (front ++ '{' :: argumentTail params).getLast? ≠ some '}' := by
    rw [heq, List.getLast?_concat]
    rcases hd with rfl | rfl <;> decide
  have hend : ((front ++ '{' :: argumentTail params) ::
      (middle ++ [last ++ ['}']]))[middle.length + 1]? = some (last ++ ['}']) := by
    rw [List.getElem?_cons_succ, List.getElem?_append_right (Nat.le_refl _),
      Nat.sub_self]
    rfl
  have hblock : Encloses (before ++ (((front ++ '{' :: argumentTail params) ::
      (middle ++ [last ++ ['}']])) ++ after)) before.length
        ⟨.brace, ⟨before.length, front.length⟩,
          ⟨before.length + (middle.length + 1), last.length⟩⟩ := by
    refine encloses_append rfl ?_ hend ?_ fun j line hj hl => ?_
    · refine Marker.onLine?_none_eq_some_iff.2 ⟨rfl, ?_, fun _ => ?_⟩
      · rw [hstrip]
        exact Marker.find_opening_brace_append hbrace hne hhash
      · rw [hstrip]
        exact (Marker.find_keyword_separated_eq_none_iff
          Text.isWord_openingBrace).2 ⟨hkeyword, htail⟩
    · rw [Marker.stripTildes_concat (by decide)]
      exact Marker.find_closing_brace_concat (Nat.zero_le _)
    · refine Marker.find_closing_brace_eq_none ?_
      cases j with
      | zero =>
          rw [List.getElem?_cons_zero] at hl
          injection hl with hl
          rw [← hl, hstrip]
          exact hopened
      | succ j =>
          rw [List.getElem?_cons_succ, List.getElem?_append_left (by omega)] at hl
          exact hmiddle line (List.mem_of_getElem? hl)
  refine toggle_eq_ok hblock ?_
  show toKeywords _ _ = _
  have hargs : arguments? ((front ++ ['{']) ++ (argumentTail params ++ [])) =
      params.map fun list => '|' :: (list ++ ['|']) :=
    arguments?_append (by simpa using hfeed) (by simpa using hbars)
      List.not_mem_nil
  rw [List.append_nil, List.append_assoc, List.singleton_append] at hargs
  rw [toKeywords_long (sourceLines_append rfl (by simp; omega) (by simp)), hargs,
    keywordOpening_eq, List.take_left]

end Block

namespace Document

/-- A long block of keywords comes back, with whatever stands between its ends.
The `do` and the `end` written out here are the two that the block was found by. -/
theorem toggle_toggle_long {doc : Document} {cursor : Nat} {block : Block}
    {front last : Text} {params : Option Text} {middle : List Text}
    (hu : doc.Uniform) (hblock : Block.enclosing doc.lines cursor = .ok block)
    (hstyle : block.style = .keyword)
    (hown : Block.sourceLines doc.lines block =
      .ok ((front ++ (Side.opening.keyword ++ Block.argumentTail params)) ::
        (middle ++ [last ++ Side.closing.keyword])))
    (hlong : 2 ≤ middle.length)
    (hopening : block.opening.column = front.length)
    (hclosing : block.closing.column = last.length)
    (hstray : block.closing.line + 1 = doc.lines.length →
      doc.text.getLast? ≠ some '\r')
    (hne : front ≠ []) (hhash : front.getLast? ≠ some '#')
    (hbrace : Marker.find .opening .brace front 0 = none) (hbars : '|' ∉ front)
    (htail : Marker.find .opening .keyword (Block.argumentTail params) 0 = none)
    (hmiddle : ∀ line ∈ middle, (Marker.stripTildes line).getLast? ≠ some '}') :
    ∃ first second, doc.toggle cursor = .ok first ∧
      first.1.toggle first.2.toggled.startLine = .ok second ∧
      second.1.text = doc.text := by
  have hencl := Block.enclosing_eq_ok_iff.1 hblock
  have hlen := (Block.eq_of_sourceLines hown).2
  rw [List.length_cons, List.length_append, List.length_singleton] at hlen
  have hfirst := Block.getElem?_of_sourceLines hown (i := 0) (Nat.succ_pos _)
  have hend := Block.getElem?_of_sourceLines hown (i := middle.length + 1) (by simp)
  rw [List.getElem?_cons_succ, List.getElem?_append_right (Nat.le_refl _),
    Nat.sub_self, List.getElem?_cons_zero,
    show block.opening.line + (middle.length + 1) = block.closing.line by omega]
    at hend
  have hopen := (hencl.find_opening hfirst).1
  rw [hstyle, Marker.find_keyword_stripTildes, hopening] at hopen
  have hfront := Marker.find_keyword_front hopen
  have hclose := hencl.find_closing hend
  rw [hstyle, Marker.find_keyword_stripTildes, hclosing] at hclose
  have hnew : Block.converted doc.lines block =
      .ok (((front ++ '{' :: Block.argumentTail params) :: middle) ++
        [last ++ ['}']]) := by
    rw [Block.converted, hstyle]
    exact Block.toBraces_long hown hlong hopening hclosing
      (Marker.find_eq_some_iff.1 hopen).2.1 (Marker.find_eq_some_iff.1 hclose).2.1
  -- Of the new lines, the ones in between are old, and the others have old texts.
  have hfeed : '\n' ∉ front ++ '{' :: Block.argumentTail params := by
    have hmem := not_mem_of_mem_lines (List.mem_of_getElem? hfirst)
    simp only [List.mem_append, List.mem_cons, not_or] at hmem ⊢
    exact ⟨hmem.1, by decide, hmem.2.2⟩
  have hfree : ∀ line ∈ ((front ++ '{' :: Block.argumentTail params) :: middle) ++
      [last ++ ['}']], '\n' ∉ line := by
    intro line hline
    rcases List.mem_append.1 hline with h | h
    · rcases List.mem_cons.1 h with rfl | h
      · exact hfeed
      · exact not_mem_of_mem_lines
          (List.mem_of_mem_take (Block.mem_take_of_sourceLines hown h))
    · have hmem := not_mem_of_mem_lines (List.mem_of_getElem? hend)
      rw [List.mem_singleton.1 h]
      simp only [List.mem_append, List.mem_singleton, not_or] at hmem ⊢
      exact ⟨hmem.1, by decide⟩
  have hlf : doc.lineEnding = .lf → ∀ line ∈
      (front ++ '{' :: Block.argumentTail params) :: middle,
        line.getLast? ≠ some '\r' := by
    intro he line hline
    rcases List.mem_cons.1 hline with rfl | h
    · obtain ⟨init, d, heq, hd⟩ := Block.exists_opened_eq front params
      rw [heq, List.getLast?_concat]
      rcases hd with rfl | rfl <;> decide
    · exact getLast?_ne_of_lf hu he hencl.closing_lt
        (Block.mem_take_of_sourceLines hown h)
  obtain ⟨first, second, htoggle, hstart, hagain, htext⟩ :=
    toggle_toggle hu hencl hown hnew (by decide) hfree hlf hstray
      fun before after _ => Block.toggle_long hne hhash hbrace hfront htail hbars
        hfeed hmiddle
  exact ⟨first, second, htoggle, hstart.symm ▸ hagain, htext⟩

theorem toggle_toggle_long_tildes :
    let doc : Document := ⟨['f', ' ', 'd', 'o', '\n', '}', '~', 'a', '\n', '\n',
      'e', 'n', 'd', '\n'], ⟨0, 0⟩, 0, .lf⟩
    ∃ first second, doc.toggle 1 = .ok first ∧
      first.1.toggle first.2.toggled.startLine = .ok second ∧
      second.1.text = doc.text :=
  @toggle_toggle_long _ 1 ⟨.keyword, ⟨0, 2⟩, ⟨3, 0⟩⟩ ['f', ' '] [] none
    [['}', '~', 'a'], []] (by decide +kernel) (by decide +kernel) rfl
    (by decide +kernel) (by decide) rfl rfl (by decide +kernel) (by decide)
    (by decide) (by decide +kernel) (by decide) (by decide +kernel)
    (by decide +kernel)

end Document

end RubyBlocks
