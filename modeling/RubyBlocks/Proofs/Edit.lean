import RubyBlocks.Proofs.Splice
import RubyBlocks.Proofs.Written

/-!
# A toggle edits one stretch of the text

Whatever line endings a document mixes, a toggle exchanges the raw lines of one block
and touches nothing else: the text before the block and the text behind it are the
same bytes as before. The lines of the new document are the old ones with the new
ones in the place of the block.

The second half needs an argument, because the lines do not show their endings. A
line feed behind a new line that ends in a carriage return would take it along. The
new lines are written with a line feed alone only where the replaced text has no
longer ending (or no ending at all), and then none of its lines ends in a carriage
return, except for one at the very end of the text. Conversions do not move such ends
around (`RubyBlocks.Proofs.Written`), so there is one place left where it can happen:
the last line of the text, behind which there is no ending at all.
-/

namespace RubyBlocks

namespace Utf8

theorem encode_append (left right : Text) :
    encode (left ++ right) = encode left ++ encode right :=
  List.flatMap_append

theorem length_encodeChar (c : Char) : (encodeChar c).length = c.utf8Size := by
  have hsize : c.utf8Size = if c.toNat < 0x80 then 1 else if c.toNat < 0x800 then 2
      else if c.toNat < 0x10000 then 3 else 4 := by
    have hle : ∀ n, c.val.toNat ≤ n ↔ c.toNat < n + 1 := fun n => Nat.lt_succ_iff.symm
    simp only [Char.utf8Size, UInt32.le_iff_toNat_le, UInt32.toNat_ofNatLT, hle]
  simp only [hsize, encodeChar, apply_ite List.length, List.length_cons,
    List.length_nil]

theorem length_encode (text : Text) :
    (encode text).length = Text.byteLength text := by
  induction text with
  | nil => rfl
  | cons c text ih =>
      rw [Text.byteLength, ← ih, ← length_encodeChar]
      exact List.length_append

end Utf8

namespace Document

/-- The change leads from one document to the next: it writes its lines over those of
a block, and all else stays. -/
structure Splices (doc : Document) (change : Change) (next : Document)
    (written : Text) : Prop where
  start_le : change.toggled.startLine ≤ change.toggled.endLine
  end_lt : change.toggled.endLine < doc.lines.length
  /-- All new lines get the ending chosen for the block, the last one too unless the
  last of the replaced lines has none. -/
  written_eq : written =
    let ending := doc.endingFor (doc.replaced change.toggled)
    List.intercalate ending.text change.toggled.lines ++
      if change.toggled.endLine + 1 = doc.lines.length then [] else ending.text
  text_eq : next.text =
    ((Text.rawLines doc.text).take change.toggled.startLine).flatten ++
      (written ++
        ((Text.rawLines doc.text).drop (change.toggled.endLine + 1)).flatten)
  /-- The bytes of what was written, counted from the start of the text. -/
  inserted_eq : change.inserted =
    let before := ((Text.rawLines doc.text).take change.toggled.startLine).flatten
    ⟨(Utf8.encode before).length, (Utf8.encode (before ++ written)).length⟩
  lines_eq : ¬ (change.toggled.endLine + 1 = doc.lines.length ∧
      ∃ last, change.toggled.lines.getLast? = some last ∧
        last.getLast? = some '\r') →
    next.lines = doc.lines.take change.toggled.startLine ++
      (change.toggled.lines ++ doc.lines.drop (change.toggled.endLine + 1))
  /-- A carriage return at the end of the text does not show. -/
  lines_eq_of_stray : ∀ init last, change.toggled.endLine + 1 = doc.lines.length →
    change.toggled.lines = init ++ [last ++ ['\r']] →
      next.lines = doc.lines.take change.toggled.startLine ++ (init ++ [last])

section

variable {doc : Document} {toggled : Toggled}

/-- Where new lines get the short ending, no old line with an ending ends in a
carriage return. -/
theorem getLast?_withoutEnding_of_lf
    (hlf : doc.endingFor (doc.replaced toggled) = .lf) {raw : Text}
    (hraw : raw ∈ doc.rawReplaced toggled) (hterm : Text.Terminated raw) :
    (Text.withoutEnding raw).getLast? ≠ some '\r' := by
  obtain ⟨line, -, rfl⟩ := hterm
  have hpart : line ++ ['\n'] <:+: doc.replaced toggled :=
    List.infix_of_mem_flatten hraw
  have hfeed : (doc.replaced toggled).contains '\n' = true :=
    List.contains_iff_mem.2 (hpart.mem (by simp))
  rw [endingFor, if_pos hfeed, LineEnding.detect] at hlf
  rw [Text.withoutEnding, Text.dropFinal_concat]
  by_cases hr : line.getLast? = some '\r'
  · -- The two characters together would be the longer ending.
    obtain ⟨front, rfl⟩ := List.getLast?_eq_some_iff.1 hr
    have hlong : LineEnding.crlf.text <:+: doc.replaced toggled :=
      List.IsInfix.trans ⟨front, [], by simp [LineEnding.text]⟩ hpart
    rw [if_pos (Text.hasPart_iff.2 hlong)] at hlf
    cases hlf
  · rwa [Text.dropFinal_of_ne hr]

end

/-- A conversion of a block that was found replaces its lines. -/
theorem replaces_of_converts {doc : Document} {cursor : Nat} {block : Block}
    {own new : List Text} (h : Block.Encloses doc.lines cursor block)
    (hown : Block.sourceLines doc.lines block = .ok own)
    (hconv : Block.Converts block own new) :
    doc.Replaces ⟨new, block.opening.line, block.closing.line⟩ := by
  have hlt := h.closing_lt
  rw [length_lines] at hlt
  refine ⟨h.opening_le_closing, hlt, getElem?_rawLines_ne_nil h, ?_, ?_⟩
  · cases hconv <;> simp
  · refine hconv.not_mem Text.isBlank_lineFeed (by decide) fun line hline => ?_
    rw [← (Block.eq_of_sourceLines hown).1] at hline
    exact not_mem_of_mem_lines (List.mem_of_mem_take (List.mem_of_mem_drop hline))

theorem replaces_of_preview {doc : Document} {cursor : Nat} {toggled : Toggled}
    (h : doc.preview cursor = .ok toggled) : doc.Replaces toggled := by
  obtain ⟨block, own, new, hencl, hown, hconv, rfl⟩ := Block.exists_of_toggle h
  exact replaces_of_converts hencl hown hconv

theorem exists_preview {doc : Document} {cursor : Nat} {block : Block}
    (h : Block.enclosing doc.lines cursor = .ok block) :
    ∃ toggled, doc.preview cursor = .ok toggled ∧
      toggled.startLine = block.opening.line ∧
      toggled.endLine = block.closing.line := by
  have hencl := Block.enclosing_eq_ok_iff.1 h
  obtain ⟨-, new, -, hnew, -⟩ := hencl.exists_converts
  exact ⟨_, Block.toggle_eq_ok hencl hnew, rfl, rfl⟩

/-- A line feed alone is put behind no new line that ends in a carriage return. -/
theorem getLast?_of_converts {doc : Document} {cursor : Nat} {block : Block}
    {own init : List Text} {last : Text}
    (h : Block.Encloses doc.lines cursor block)
    (hown : Block.sourceLines doc.lines block = .ok own)
    (hconv : Block.Converts block own (init ++ [last]))
    (hlf : doc.endingFor (doc.replaced
      ⟨init ++ [last], block.opening.line, block.closing.line⟩) = .lf) :
    (∀ line ∈ init, line.getLast? ≠ some '\r') ∧
      (block.closing.line + 1 ≠ (Text.rawLines doc.text).length →
        last.getLast? ≠ some '\r') := by
  have hreplaces := replaces_of_converts h hown hconv
  obtain ⟨raw, hraw, -, hcut, -⟩ := exists_rawReplaced_eq hreplaces
  have hlt := hreplaces.end_lt
  have hlines : own = (doc.rawReplaced
      ⟨init ++ [last], block.opening.line, block.closing.line⟩).map
        Text.withoutEnding := by
    rw [map_withoutEnding_rawReplaced, (Block.eq_of_sourceLines hown).1]
  refine ⟨?_, fun hend => ?_⟩
  · have hends := hconv.getLast?_dropLast Text.isBlank_carriageReturn (by decide)
    rw [List.dropLast_concat] at hends
    refine hends fun line hline => ?_
    rw [hlines, hcut, List.map_append, List.map_singleton, List.dropLast_concat]
      at hline
    obtain ⟨old, hold, rfl⟩ := List.mem_map.1 hline
    refine getLast?_withoutEnding_of_lf hlf ?_
      (doc.terminated_of_mem_take hlt (List.mem_of_mem_drop hold))
    rw [hcut]
    exact List.mem_append_left _ hold
  · refine hconv.getLast?_last Text.isBlank_carriageReturn (by decide)
      (h.not_blanks hown) (fun line hline => ?_) last List.getLast?_concat
    rw [hlines, hcut, List.map_append, List.map_singleton, List.getLast?_concat]
      at hline
    injection hline with hline
    subst hline
    refine getLast?_withoutEnding_of_lf hlf (by rw [hcut]; simp) ?_
    exact doc.terminated_of_mem_take (Nat.lt_of_le_of_ne hlt hend)
      (doc.mem_take_of_getElem? hraw)

theorem lines_apply_of_converts {doc : Document} {cursor : Nat} {block : Block}
    {own init : List Text} {last : Text}
    (h : Block.Encloses doc.lines cursor block)
    (hown : Block.sourceLines doc.lines block = .ok own)
    (hconv : Block.Converts block own (init ++ [last])) :
    (doc.apply ⟨init ++ [last], block.opening.line, block.closing.line⟩).lines =
      doc.lines.take block.opening.line ++
        ((init ++ [if block.closing.line + 1 = doc.lines.length then
            Text.dropFinal '\r' last else last]) ++
          doc.lines.drop (block.closing.line + 1)) := by
  rw [length_lines]
  exact lines_apply_eq (replaces_of_converts h hown hconv) rfl
    (fun hlf => (getLast?_of_converts h hown hconv hlf).1)
    fun hlf => (getLast?_of_converts h hown hconv hlf).2

/-- A toggle is an edit of whole lines, whatever endings they have. -/
theorem toggle_splices {doc next : Document} {cursor : Nat} {change : Change}
    (h : doc.toggle cursor = .ok (next, change)) :
    doc.preview cursor = .ok change.toggled ∧
      ∃ written, doc.Splices change next written := by
  cases hpreview : doc.preview cursor with
  | error e => rw [toggle, hpreview] at h; cases h
  | ok toggled =>
      rw [toggle, hpreview] at h
      cases h
      refine ⟨rfl, doc.replacement toggled, ?_⟩
      obtain ⟨block, own, new, hencl, hown, hconv, rfl⟩ :=
        Block.exists_of_toggle hpreview
      have hreplaces := replaces_of_converts hencl hown hconv
      obtain ⟨init, last, rfl⟩ := hreplaces.exists_concat
      have hlines := lines_apply_of_converts hencl hown hconv
      refine ⟨hencl.opening_le_closing, hencl.closing_lt, ?_, ?_, ?_, ?_, ?_⟩
      · rw [replacement_eq_flatten hreplaces, Text.flatten_terminate
          hreplaces.lines_ne, length_lines]
        rfl
      · exact List.append_assoc _ _ _
      · simp only [Utf8.length_encode, Utf8.encode_append, List.length_append]
        rfl
      · intro hstray
        refine hlines.trans ?_
        split <;> rename_i hend
        · have hlast : last.getLast? ≠ some '\r' := fun hr =>
            hstray ⟨hend, last, List.getLast?_concat, hr⟩
          rw [Text.dropFinal_of_ne hlast]
          rfl
        · rfl
      · intro init' last' (hend : block.closing.line + 1 = doc.lines.length) heq
        obtain ⟨rfl, hlast⟩ := List.append_inj' heq rfl
        injection hlast with hlast
        subst hlast
        refine hlines.trans ?_
        rw [if_pos hend, Text.dropFinal_concat, hend, List.drop_length,
          List.append_nil]
        rfl

/-- A text with two kinds of endings, and carriage returns at its end. -/
theorem toggle_splices_stray :
    let doc : Document := ⟨['a', '\r', '\n', 'f', ' ', 'd', 'o', '\n', 'x', '\n', 'y',
      '\n', 'e', 'n', 'd', '\r', '\r'], ⟨0, 0⟩, 0, .crlf⟩
    ∃ next change written, doc.toggle 2 = .ok (next, change) ∧
      doc.Splices change next written ∧
      next.lines = [['a'], ['f', ' ', '{'], ['x'], ['y'], ['}']] := by
  intro doc
  have htoggle : doc.toggle 2 = .ok
      (⟨['a', '\r', '\n', 'f', ' ', '{', '\n', 'x', '\n', 'y', '\n', '}', '\r'],
          ⟨0, 0⟩, 1, .crlf⟩,
        ⟨⟨3, 13⟩, ⟨0, 0⟩, 1, ⟨[['f', ' ', '{'], ['x'], ['y'], ['}', '\r']], 1, 4⟩⟩) := by
    decide +kernel
  obtain ⟨-, written, hsplices⟩ := toggle_splices htoggle
  refine ⟨_, _, written, htoggle, hsplices, ?_⟩
  exact hsplices.lines_eq_of_stray [['f', ' ', '{'], ['x'], ['y']] ['}']
    (by decide +kernel) rfl

end Document

end RubyBlocks
