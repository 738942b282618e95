import RubyBlocks.Proofs.Effects

/-!
# Where a run leaves the cursor

A run answers a line to put the cursor on, and what it looks at is little: a block
that became one line takes the cursor along, and otherwise the cursor stays on its
line, whatever happened to the lines around it. This file says that the cursor is on
one of the new lines all the same.

The search walks outward from the cursor, so the cursor was on a line of the block. A
conversion that writes more than one line writes at least as many as it found
(`Converts.length_cases`), and these start where the block did. So the line that the
cursor was on is one of theirs. None of them is behind the end of the text, since the
lines before the block are ended by line feeds and every new line but the last brings
one of its own.
-/

namespace RubyBlocks

theorem Text.length_rawLines (text : Text) :
    (rawLines text).length = (text.splitOn '\n').length := by
  induction text using lineInduction with
  | last line h => rw [rawLines_of_not_mem h, List.splitOn_eq_singleton h]
  | line line rest h ih =>
      rw [rawLines_line_append h, List.splitOn_append_cons_self_of_not_mem h,
        List.length_cons, List.length_cons, ih]

namespace Block

theorem Converts.length_cases {block : Block} {own new : List Text}
    (h : Converts block own new) : new.length = 1 ∨ own.length ≤ new.length := by
  cases h with
  | folded => exact Or.inl rfl
  | swapped => right; simp
  | unfolded => right; simp
  | cut => right; simp

end Block

namespace Document

variable {doc : Document} {cursor : Nat} {toggled : Toggled}

theorem cursorAfter_bounds (h : doc.preview cursor = .ok toggled) :
    toggled.startLine + 1 ≤ Command.cursorAfter cursor toggled ∧
      Command.cursorAfter cursor toggled ≤
        toggled.startLine + toggled.lines.length := by
  obtain ⟨block, own, new, hencl, hown, hconv, rfl⟩ := Block.exists_of_toggle h
  have habove := hencl.opening_le
  have hbelow := hencl.le_closing
  have hlen := (Block.eq_of_sourceLines hown).2
  simp only [Command.cursorAfter]
  split <;> rename_i hone
  · omega
  · have hmany : own.length ≤ new.length := hconv.length_cases.resolve_left hone
    omega

theorem le_length_rawLines_apply (h : doc.Replaces toggled) :
    toggled.startLine + toggled.lines.length ≤
      (Text.rawLines (doc.apply toggled).text).length := by
  have hle := h.start_le
  have hlt := h.end_lt
  rw [rawLines_apply_eq h, List.length_append, List.length_append,
    List.length_take_of_le (by omega), Text.length_terminate]
  omega

end Document

namespace Command

/-- The cursor is put on one of the new lines, and these are in the text. -/
theorem run_cursor_within {arguments : Arguments} {settings : Settings}
    {workspace : Workspace} {outcome : Outcome}
    (hrun : ((run arguments settings : InWorkspace _).run workspace).1 = .ok outcome) :
    ∃ original doc edited change,
      workspace.files.read arguments.file = .ok original ∧
      Document.ofBytes original = .ok doc ∧
      doc.toggle arguments.cursorLine = .ok (edited, change) ∧
      outcome.text = edited.text ∧
      change.toggled.startLine + 1 ≤ outcome.cursorLine ∧
      outcome.cursorLine ≤ change.toggled.startLine + change.toggled.lines.length ∧
      outcome.cursorLine ≤ (outcome.text.splitOn '\n').length := by
  obtain ⟨original, doc, edited, change, hread, hdoc, htoggle, htext, hcursor, -⟩ :=
    exists_of_run_eq_ok hrun
  obtain ⟨toggled, hpreview, rfl, rfl⟩ := Document.exists_of_toggle htoggle
  have hbounds := Document.cursorAfter_bounds hpreview
  have hlines :=
    Document.le_length_rawLines_apply (Document.replaces_of_preview hpreview)
  rw [Text.length_rawLines, ← htext] at hlines
  rw [hcursor]
  exact ⟨original, doc, _, _, hread, hdoc, htoggle, htext, hbounds.1, hbounds.2,
    Nat.le_trans hbounds.2 hlines⟩

/-- The block goes onto one line, and the cursor goes up with it. -/
theorem run_cursor_within_folded :
    let text : Text := ['b', '\n', 'f', ' ', 'd', 'o', '\n', 'x', '\n', 'e', 'n', 'd']
    let outcome : Outcome :=
      ⟨['b', '\n', 'f', ' ', '{', ' ', 'x', ' ', '}'], false, 2⟩
    ((run ⟨['a'], 3, .standardOutput, true⟩ ⟨true, [], none⟩ : InWorkspace _).run
      (.ofFiles ⟨[], [([['a']], .file (Utf8.encode text))]⟩ [])).1 = .ok outcome ∧
    ∃ (doc edited : Document) (change : Change),
      doc.toggle 3 = .ok (edited, change) ∧ outcome.text = edited.text ∧
      change.toggled.startLine + 1 ≤ outcome.cursorLine ∧
      outcome.cursorLine ≤ change.toggled.startLine + change.toggled.lines.length ∧
      outcome.cursorLine ≤ (outcome.text.splitOn '\n').length := by
  intro text outcome
  have hrun : ((run ⟨['a'], 3, .standardOutput, true⟩ ⟨true, [], none⟩ :
      InWorkspace _).run (.ofFiles ⟨[], [([['a']], .file (Utf8.encode text))]⟩ [])).1 =
        .ok outcome := by decide +kernel
  obtain ⟨-, doc, edited, change, -, -, hwithin⟩ := run_cursor_within hrun
  exact ⟨hrun, doc, edited, change, hwithin⟩

end Command

end RubyBlocks
