import RubyBlocks.Proofs.Edit
import RubyBlocks.Proofs.Locality

/-!
# Blocks apart from each other can be toggled in either order

The first of two toggles moves the lines behind its block, and what the second one
does is computed from the moved text: the search runs over other lines, the edit cuts
at other offsets, and the line ending of the new lines is chosen once more. None of
this matters if the blocks have no line in common. A toggle is decided by the raw
lines of its block: the search by what stands on them (`RubyBlocks.Proofs.Locality`),
the line ending by how they end, and the document's own ending, which steps in where
they have none, is never changed.

So the raw lines are cut into five pieces, two blocks and what is around them
(`CutAt.exists_between`). A toggle exchanges one of the pieces and keeps the others,
and the toggle of the other block is found again in the new document
(`CutAt.preview_moved`) with the same new text (`CutAt.replacement_congr`). Both orders
write the same five pieces.
-/

namespace RubyBlocks

namespace Document

/-- The raw lines of the document: those before the toggled ones, the toggled ones and
those behind them. -/
structure CutAt (doc : Document) (toggled : Toggled) (front own back : List Text) :
    Prop where
  rawLines_eq : Text.rawLines doc.text = front ++ (own ++ back)
  start_eq : toggled.startLine = front.length
  end_eq : toggled.endLine + 1 = front.length + own.length

namespace CutAt

variable {doc : Document} {toggled : Toggled} {front own back : List Text}

theorem take_rawLines (h : doc.CutAt toggled front own back) :
    (Text.rawLines doc.text).take toggled.startLine = front := by
  rw [h.rawLines_eq, h.start_eq, List.take_left]

theorem drop_rawLines (h : doc.CutAt toggled front own back) :
    (Text.rawLines doc.text).drop (toggled.endLine + 1) = back := by
  rw [h.rawLines_eq, h.end_eq, ← List.length_append, ← List.append_assoc,
    List.drop_left]

theorem replaced_eq (h : doc.CutAt toggled front own back) :
    doc.replaced toggled = own.flatten := by
  rw [replaced, h.rawLines_eq, h.end_eq, h.start_eq, ← List.length_append,
    ← List.append_assoc, List.take_left, List.drop_left]

theorem text_apply (h : doc.CutAt toggled front own back) :
    (doc.apply toggled).text =
      front.flatten ++ (doc.replacement toggled ++ back.flatten) := by
  show doc.before toggled ++ doc.replacement toggled ++ doc.after toggled = _
  rw [before, after, h.take_rawLines, h.drop_rawLines, List.append_assoc]

theorem getElem?_lines (h : doc.CutAt toggled front own back) {i : Nat}
    (hi : i < own.length) :
    doc.lines[toggled.startLine + i]? = own[i]?.map Text.withoutEnding := by
  rw [lines, Text.lines, List.getElem?_map, h.rawLines_eq, h.start_eq,
    List.getElem?_append_right (Nat.le_add_right _ _), Nat.add_sub_cancel_left,
    List.getElem?_append_left hi]

/-- A toggle puts raw lines in the place of raw lines. -/
theorem exists_rawLines_apply (h : doc.CutAt toggled front own back)
    (hreplaces : doc.Replaces toggled) :
    ∃ new, Text.rawLines (doc.apply toggled).text = front ++ (new ++ back) ∧
      new.length = toggled.lines.length ∧
      new.flatten = doc.replacement toggled := by
  refine ⟨_, ?_, Text.length_terminate toggled.lines,
    (replacement_eq_flatten hreplaces).symm⟩
  rw [rawLines_apply_eq hreplaces, h.take_rawLines, h.drop_rawLines]

/-! ## The same raw lines in another document -/

variable {doc' : Document} {toggled' : Toggled} {front' back' : List Text}

theorem preview_moved {cursor : Nat} (h : doc.CutAt toggled front own back)
    (h' : doc'.CutAt toggled' front' own back') (hlines : toggled'.lines = toggled.lines)
    (hpreview : doc.preview cursor = .ok toggled) :
    doc'.preview (toggled'.startLine + (cursor - toggled.startLine)) =
      .ok toggled' := by
  have hstart := h.start_eq
  have hend := h.end_eq
  have hend' := h'.end_eq
  have hstart' := h'.start_eq
  obtain ⟨hle, hge, -⟩ := Block.bounds_of_toggle hpreview
  have hsame : ∀ i, toggled.startLine + i ≤ toggled.endLine →
      doc'.lines[toggled'.startLine + i]? = doc.lines[toggled.startLine + i]? := by
    intro i hi
    rw [h.getElem?_lines (by omega), h'.getElem?_lines (by omega)]
  have hlast : toggled'.startLine + (toggled.endLine - toggled.startLine) =
      toggled'.endLine := by omega
  rw [preview, Block.toggle_of_same_lines hpreview hsame, hlast, ← hlines]

theorem replacement_congr (h : doc.CutAt toggled front own back)
    (h' : doc'.CutAt toggled' front' own back') (hlines : toggled'.lines = toggled.lines)
    (hending : doc'.lineEnding = doc.lineEnding) :
    doc'.replacement toggled' = doc.replacement toggled := by
  simp only [replacement, endingFor, h.replaced_eq, h'.replaced_eq, hlines,
    hending]

end CutAt

/-! ## Two blocks -/

theorem Replaces.cutAt {doc : Document} {toggled : Toggled} (h : doc.Replaces toggled) :
    doc.CutAt toggled ((Text.rawLines doc.text).take toggled.startLine)
      (doc.rawReplaced toggled) ((Text.rawLines doc.text).drop (toggled.endLine + 1)) := by
  have hle := h.start_le
  have hlt := h.end_lt
  refine ⟨doc.rawLines_eq_append hle, ?_, ?_⟩
  · rw [List.length_take]
    omega
  · rw [rawReplaced, List.length_drop, List.length_take, List.length_take]
    omega

/-- The second block lies behind the first one, with some lines between them. -/
theorem CutAt.exists_between {doc : Document} {upper lower : Toggled}
    {front own back front' own' back' : List Text}
    (h : doc.CutAt upper front own back) (h' : doc.CutAt lower front' own' back')
    (hlt : upper.endLine < lower.startLine) :
    ∃ between, front' = front ++ (own ++ between) ∧
      back = between ++ (own' ++ back') := by
  have hstart := h'.start_eq
  have hend := h.end_eq
  have hraws := h.rawLines_eq.symm.trans h'.rawLines_eq
  rw [← List.append_assoc] at hraws
  rcases List.append_eq_append_iff.1 hraws with ⟨between, hfront, hback⟩ | ⟨t, hown, hback⟩
  · exact ⟨between, by rw [hfront, List.append_assoc], hback⟩
  · have hlen := congrArg List.length hown
    rw [List.length_append, List.length_append] at hlen
    obtain rfl : t = [] := List.length_eq_zero_iff.1 (by omega)
    rw [List.append_nil] at hown
    exact ⟨[], by rw [List.append_nil, hown], hback.symm⟩

section

variable {doc : Document} {upper lower : Toggled}
  {front own between own' back : List Text}
  (hupper : doc.CutAt upper front own (between ++ (own' ++ back)))
  (hlower : doc.CutAt lower (front ++ (own ++ between)) own' back)
include hupper hlower

theorem exists_toggle_upper_last {cursor : Nat}
    (hpreview : doc.preview cursor = .ok upper) (hreplaces : doc.Replaces lower) :
    ∃ both, (doc.apply lower).toggle cursor = .ok both ∧
      both.1.text = front.flatten ++ (doc.replacement upper ++ (between.flatten ++
        (doc.replacement lower ++ back.flatten))) ∧
      both.1.version = doc.version + 2 := by
  obtain ⟨new, hraws, -, hnew⟩ := hlower.exists_rawLines_apply hreplaces
  have hcut : (doc.apply lower).CutAt upper front own (between ++ (new ++ back)) := by
    refine ⟨?_, hupper.start_eq, hupper.end_eq⟩
    rw [hraws]
    simp only [List.append_assoc]
  have hagain := hupper.preview_moved hcut rfl hpreview
  have hle := (Block.bounds_of_toggle hpreview).1
  rw [Nat.add_sub_of_le hle] at hagain
  refine ⟨_, toggle_eq_ok hagain, ?_, rfl⟩
  show ((doc.apply lower).apply upper).text = _
  rw [hcut.text_apply, hupper.replacement_congr hcut rfl rfl, ← hnew, List.flatten_append,
    List.flatten_append]

theorem exists_toggle_lower_last {cursor : Nat}
    (hpreview : doc.preview cursor = .ok lower) (hreplaces : doc.Replaces upper) :
    ∃ both, (doc.apply upper).toggle
        (cursor - (upper.endLine - upper.startLine + 1) + upper.lines.length) =
          .ok both ∧
      both.1.text = front.flatten ++ (doc.replacement upper ++ (between.flatten ++
        (doc.replacement lower ++ back.flatten))) ∧
      both.1.version = doc.version + 2 := by
  obtain ⟨new, hraws, hlen, hnew⟩ := hupper.exists_rawLines_apply hreplaces
  obtain ⟨hle, hge, -⟩ := Block.bounds_of_toggle hpreview
  have hstart := hlower.start_eq
  have hend := hlower.end_eq
  have hstart' := hupper.start_eq
  have hend' := hupper.end_eq
  have hle' := hreplaces.start_le
  -- The lower block as far behind the new lines as it was behind the old ones.
  let moved : Toggled := ⟨lower.lines, (front ++ (new ++ between)).length,
    (front ++ (new ++ between)).length + (lower.endLine - lower.startLine)⟩
  have hcut : (doc.apply upper).CutAt moved (front ++ (new ++ between)) own' back := by
    refine ⟨?_, rfl, ?_⟩
    · rw [hraws]
      simp only [List.append_assoc]
    · show (front ++ (new ++ between)).length + (lower.endLine - lower.startLine) + 1 = _
      omega
  have hagain := hlower.preview_moved hcut rfl hpreview
  have hcursor : moved.startLine + (cursor - lower.startLine) =
      cursor - (upper.endLine - upper.startLine + 1) + upper.lines.length := by
    show (front ++ (new ++ between)).length + (cursor - lower.startLine) = _
    simp only [List.length_append] at hstart ⊢
    omega
  rw [hcursor] at hagain
  refine ⟨_, toggle_eq_ok hagain, ?_, rfl⟩
  show ((doc.apply upper).apply moved).text = _
  rw [hcut.text_apply, hlower.replacement_congr hcut rfl rfl, ← hnew]
  simp only [List.flatten_append, List.append_assoc]

end

/-- Two blocks that have no line in common, the lower one toggled first or last. In the
second case its lines have moved by as many as the upper block has grown. -/
theorem toggle_comm {doc : Document} {cursor cursor' : Nat} {block block' : Block}
    (h : Block.enclosing doc.lines cursor = .ok block)
    (h' : Block.enclosing doc.lines cursor' = .ok block')
    (hlt : block.closing.line < block'.opening.line) :
    ∃ upper lower both both',
      doc.toggle cursor' = .ok lower ∧ lower.1.toggle cursor = .ok both ∧
      doc.toggle cursor = .ok upper ∧
      upper.1.toggle (cursor' - (block.closing.line - block.opening.line + 1) +
        upper.2.toggled.lines.length) = .ok both' ∧
      both.1.text = both'.1.text ∧ both.1.version = both'.1.version := by
  obtain ⟨upper, hupper, hstart, hend⟩ := exists_preview h
  obtain ⟨lower, hlower, hstart', -⟩ := exists_preview h'
  have hcut := (replaces_of_preview hupper).cutAt
  have hcut' := (replaces_of_preview hlower).cutAt
  obtain ⟨between, hfront, hback⟩ := hcut.exists_between hcut' (by omega)
  rw [hback] at hcut
  rw [hfront] at hcut'
  obtain ⟨both, hboth, htext, hversion⟩ :=
    exists_toggle_upper_last hcut hcut' hupper (replaces_of_preview hlower)
  obtain ⟨both', hboth', htext', hversion'⟩ :=
    exists_toggle_lower_last hcut hcut' hlower (replaces_of_preview hupper)
  rw [hstart, hend] at hboth'
  exact ⟨_, _, both, both', toggle_eq_ok hlower, hboth, toggle_eq_ok hupper, hboth',
    htext.trans htext'.symm, hversion.trans hversion'.symm⟩

/-- A block with the long ending, a line with the short one, and a block at the end of
the text, which has neither on its last line. -/
theorem toggle_comm_mixed :
    let doc : Document := ⟨['a', ' ', '{', ' ', 'b', ' ', '}', '\r', '\n', 'c', '\n',
      'd', ' ', 'd', 'o', '\n', 'e', '\r', '\n', 'e', 'n', 'd'], ⟨0, 0⟩, 0, .crlf⟩
    ∃ upper lower both both',
      doc.toggle 3 = .ok lower ∧ lower.1.toggle 0 = .ok both ∧
      doc.toggle 0 = .ok upper ∧
      upper.1.toggle (3 - (0 - 0 + 1) + upper.2.toggled.lines.length) = .ok both' ∧
      both.1.text = both'.1.text ∧ both.1.version = both'.1.version :=
  @toggle_comm _ 0 3 ⟨.brace, ⟨0, 2⟩, ⟨0, 6⟩⟩ ⟨.keyword, ⟨2, 2⟩, ⟨4, 0⟩⟩
    (by decide +kernel) (by decide +kernel) (by decide)

end Document

end RubyBlocks
