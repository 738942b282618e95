import RubyBlocks.Proofs.Runs

/-!
# What is selected while a document is worked on

A selection is a pair of byte offsets, and nothing in a document ties them to its text.
A range is good for a text when it does not run backward, ends inside the text and cuts
through none of its characters. Opening a document selects such a range, and a user is
taken to select only such ranges; then there is never another one.

The step is a toggle. It cuts the text into three pieces and exchanges the middle one,
so an offset between two characters of the outer pieces stays one, up to the difference
in size for the last piece. Offsets inside the middle piece have no such counterpart,
and a selection that reaches into it is given up for the start of the new lines.

Moving a selection subtracts the size of the old lines from its offsets. The selection
is moved only when it starts behind these lines, so both offsets are at least that
large, and the subtraction is one of natural numbers whichever way the sizes differ. It
may come before or after the new size is added (`moveSelection_behind`).
-/

namespace RubyBlocks

namespace Text

/-! ## Offsets between characters -/

theorem byteLength_append (front back : Text) :
    byteLength (front ++ back) = byteLength front + byteLength back := by
  induction front with
  | nil => simp [byteLength]
  | cons c front ih =>
      simp only [List.cons_append, byteLength, ih]
      omega

/-- Whether a byte offset into the text lies between two of its characters or at one of
its ends. -/
def isBoundary : Text → Nat → Bool
  | [], offset => offset == 0
  | c :: rest, offset =>
    offset == 0 || (c.utf8Size ≤ offset && isBoundary rest (offset - c.utf8Size))

theorem isBoundary_zero (text : Text) : isBoundary text 0 = true := by
  cases text <;> rfl

theorem isBoundary_append_left {front : Text} (back : Text) :
    ∀ {offset : Nat}, offset ≤ byteLength front →
      isBoundary (front ++ back) offset = isBoundary front offset := by
  induction front with
  | nil =>
      intro offset hle
      obtain rfl : offset = 0 := by simpa [byteLength] using hle
      rw [isBoundary_zero, isBoundary_zero]
  | cons c front ih =>
      intro offset hle
      rw [byteLength] at hle
      rw [List.cons_append, isBoundary, isBoundary, ih (by omega)]

theorem isBoundary_append_right (back : Text) :
    ∀ (front : Text) (offset : Nat),
      isBoundary (front ++ back) (byteLength front + offset) = isBoundary back offset
  | [], offset => by simp [byteLength]
  | c :: front, offset => by
      have hpos := c.utf8Size_pos
      have hcut : c.utf8Size + byteLength front + offset - c.utf8Size =
        byteLength front + offset := by omega
      rw [List.cons_append, byteLength, isBoundary, hcut,
        isBoundary_append_right back front offset]
      have hne : (c.utf8Size + byteLength front + offset == 0) = false := by
        rw [beq_eq_false_iff_ne]
        omega
      have hle : c.utf8Size ≤ c.utf8Size + byteLength front + offset := by omega
      rw [hne, decide_eq_true hle, Bool.false_or, Bool.true_and]

theorem isBoundary_byteLength (text : Text) :
    isBoundary text (byteLength text) = true := by
  have h := isBoundary_append_right [] text 0
  rwa [List.append_nil, Nat.add_zero] at h

end Text

namespace Span

/-- The range is one of whole characters of the text. -/
structure Fits (span : Span) (text : Text) : Prop where
  start_le : span.start ≤ span.stop
  stop_le : span.stop ≤ Text.byteLength text
  start_boundary : Text.isBoundary text span.start = true
  stop_boundary : Text.isBoundary text span.stop = true

instance (span : Span) (text : Text) : Decidable (span.Fits text) :=
  decidable_of_iff (span.start ≤ span.stop ∧ span.stop ≤ Text.byteLength text ∧
      Text.isBoundary text span.start = true ∧ Text.isBoundary text span.stop = true)
    ⟨fun ⟨hle, hlen, hstart, hstop⟩ => ⟨hle, hlen, hstart, hstop⟩,
      fun ⟨hle, hlen, hstart, hstop⟩ => ⟨hle, hlen, hstart, hstop⟩⟩

/-- Neither range ends before the other starts. -/
def Overlaps (span other : Span) : Prop :=
  span.start < other.stop ∧ other.start < span.stop

instance (span other : Span) : Decidable (span.Overlaps other) :=
  inferInstanceAs (Decidable (_ ∧ _))

/-- The bytes of the text in the range. -/
def covered (span : Span) (text : Text) : Bytes :=
  ((Utf8.encode text).take span.stop).drop span.start

theorem fits_empty {text : Text} {offset : Nat} (hle : offset ≤ Text.byteLength text)
    (hb : Text.isBoundary text offset = true) : Fits ⟨offset, offset⟩ text :=
  ⟨Nat.le_refl _, hle, hb, hb⟩

/-! Next to a cut a range depends only on the piece that it lies in. -/

theorem fits_append_left {span : Span} {front : Text} (back : Text)
    (hstop : span.stop ≤ Text.byteLength front) :
    span.Fits (front ++ back) ↔ span.Fits front := by
  constructor
  · rintro ⟨hle, -, hstart, hend⟩
    rw [Text.isBoundary_append_left _ (by omega)] at hstart hend
    exact ⟨hle, hstop, hstart, hend⟩
  · rintro ⟨hle, -, hstart, hend⟩
    rw [← Text.isBoundary_append_left back (by omega)] at hstart hend
    refine ⟨hle, ?_, hstart, hend⟩
    rw [Text.byteLength_append]
    omega

theorem fits_append_right {front back : Text} {start stop : Nat} :
    Fits ⟨Text.byteLength front + start, Text.byteLength front + stop⟩ (front ++ back) ↔
      Fits ⟨start, stop⟩ back := by
  have hlen := Text.byteLength_append front back
  constructor
  · rintro ⟨hle, hstop, hb, hb'⟩
    rw [Text.isBoundary_append_right] at hb hb'
    simp only at hle hstop
    exact ⟨by simp only; omega, by simp only; omega, hb, hb'⟩
  · rintro ⟨hle, hstop, hb, hb'⟩
    rw [← Text.isBoundary_append_right back front] at hb hb'
    simp only at hle hstop
    exact ⟨by simp only; omega, by simp only; omega, hb, hb'⟩

theorem covered_append_left {span : Span} {front : Text} (back : Text)
    (hstop : span.stop ≤ Text.byteLength front) :
    span.covered (front ++ back) = span.covered front := by
  rw [← Utf8.length_encode] at hstop
  rw [covered, covered, Utf8.encode_append, List.take_append_of_le_length hstop]

theorem covered_append_right (front back : Text) (start stop : Nat) :
    covered ⟨Text.byteLength front + start, Text.byteLength front + stop⟩ (front ++ back) =
      covered ⟨start, stop⟩ back := by
  rw [covered, Utf8.encode_append, ← Utf8.length_encode, List.take_length_add_append,
    List.drop_length_add_append, covered]

end Span

namespace Document

/-! ## One toggle -/

section

variable {doc : Document} {toggled : Toggled}

theorem byteLength_replaced_pos (h : doc.Replaces toggled) :
    0 < Text.byteLength (doc.replaced toggled) := by
  obtain ⟨raw, -, hne, -, hlast⟩ := exists_rawReplaced_eq h
  cases hr : doc.replaced toggled with
  | nil =>
      rw [hr, List.getLast?_nil, eq_comm, List.getLast?_eq_none_iff] at hlast
      exact absurd hlast hne
  | cons c rest =>
      have := c.utf8Size_pos
      rw [Text.byteLength]
      omega

theorem text_apply_eq : (doc.apply toggled).text =
    doc.before toggled ++ (doc.replacement toggled ++ doc.after toggled) :=
  List.append_assoc _ _ _

/-- Behind the replaced bytes there are as many as are taken off, at both ends of a
selection that does not run backward. -/
theorem moveSelection_behind {selection span : Span} {inserted : Nat}
    (hbehind : span.stop ≤ selection.start) (hle : selection.start ≤ selection.stop) :
    moveSelection selection span inserted =
      ⟨selection.start - span.size + inserted, selection.stop - span.size + inserted⟩ := by
  have hstart : span.size ≤ selection.start := Nat.le_trans (Nat.sub_le _ _) hbehind
  have hstop : span.size ≤ selection.stop := Nat.le_trans hstart hle
  rw [moveSelection, if_pos hbehind, Nat.sub_add_comm hstart, Nat.sub_add_comm hstop]

/-- The three things that can happen to a selection. -/
theorem selectionAfter_cases (h : doc.Replaces toggled)
    (hle : doc.selection.start ≤ doc.selection.stop) :
    let front := Text.byteLength (doc.before toggled)
    let old := front + Text.byteLength (doc.replaced toggled)
    let new := front + Text.byteLength (doc.replacement toggled)
    (1 < toggled.lines.length ∧ doc.selection.stop ≤ front ∧
        doc.selectionAfter toggled = doc.selection) ∨
      (1 < toggled.lines.length ∧ ∃ start stop,
        doc.selection = ⟨old + start, old + stop⟩ ∧
          doc.selectionAfter toggled = ⟨new + start, new + stop⟩) ∨
      ((toggled.lines.length = 1 ∨ doc.selection.Overlaps (doc.replacedSpan toggled)) ∧
        doc.selectionAfter toggled = ⟨front, front⟩) := by
  intro front old new
  have hpos := byteLength_replaced_pos h
  have hlen : toggled.lines.length ≠ 0 := mt List.length_eq_zero_iff.1 h.lines_ne
  by_cases hone : toggled.lines.length = 1
  · exact Or.inr (Or.inr ⟨Or.inl hone, if_pos hone⟩)
  · rw [selectionAfter, if_neg hone]
    by_cases hbehind : old ≤ doc.selection.start
    · obtain ⟨start, hstart⟩ := Nat.exists_eq_add_of_le hbehind
      obtain ⟨stop, hstop⟩ := Nat.exists_eq_add_of_le (Nat.le_trans hbehind hle)
      refine Or.inr (Or.inl ⟨by omega, start, stop, ?_, ?_⟩)
      · rw [← hstart, ← hstop]
      · rw [moveSelection_behind hbehind hle, hstart, hstop]
        simp only [Span.size, replacedSpan, Span.mk.injEq]
        omega
    · rw [moveSelection, if_neg (show ¬ (doc.replacedSpan toggled).stop ≤ _ from hbehind)]
      by_cases hfront : doc.selection.stop ≤ front
      · exact Or.inl ⟨by omega, hfront, if_pos hfront⟩
      · exact Or.inr (Or.inr ⟨Or.inr ⟨Nat.lt_of_not_le hbehind, Nat.lt_of_not_le hfront⟩,
          if_neg hfront⟩)

/-- What becomes of the selection in a toggle that leads from one document to the
next. -/
structure MovesSelection (doc : Document) (change : Change) (next : Document) : Prop where
  reported : change.selection = next.selection
  fits : next.selection.Fits next.text
  /-- The size of the replaced text can be taken off where it is taken off. -/
  size_le : (doc.replacedSpan change.toggled).start ≤
      (doc.replacedSpan change.toggled).stop ∧
    ((doc.replacedSpan change.toggled).stop ≤ doc.selection.start →
      (doc.replacedSpan change.toggled).size ≤ doc.selection.start ∧
        (doc.replacedSpan change.toggled).size ≤ doc.selection.stop)
  covered_eq : 1 < change.toggled.lines.length →
    ¬ doc.selection.Overlaps (doc.replacedSpan change.toggled) →
      next.selection.covered next.text = doc.selection.covered doc.text
  eq_of_before : 1 < change.toggled.lines.length →
    doc.selection.stop ≤ (doc.replacedSpan change.toggled).start →
      next.selection = doc.selection
  /-- The distance from the end of the text stays. -/
  eq_of_after : 1 < change.toggled.lines.length →
    (doc.replacedSpan change.toggled).stop ≤ doc.selection.start →
      Text.byteLength next.text - next.selection.start =
          Text.byteLength doc.text - doc.selection.start ∧
        Text.byteLength next.text - next.selection.stop =
          Text.byteLength doc.text - doc.selection.stop
  collapsed : ¬ (1 < change.toggled.lines.length ∧
      ¬ doc.selection.Overlaps (doc.replacedSpan change.toggled)) →
    next.selection = ⟨(doc.replacedSpan change.toggled).start,
      (doc.replacedSpan change.toggled).start⟩

theorem fits_selectionAfter (h : doc.Replaces toggled)
    (hfits : doc.selection.Fits doc.text) :
    (doc.selectionAfter toggled).Fits (doc.apply toggled).text := by
  have htext := doc.text_eq_append h.start_le
  rw [text_apply_eq]
  rcases selectionAfter_cases h hfits.start_le with
    ⟨-, hfront, heq⟩ | ⟨-, start, stop, hsel, heq⟩ | ⟨-, heq⟩
  · rw [heq, Span.fits_append_left _ hfront]
    rwa [htext, Span.fits_append_left _ hfront] at hfits
  · rw [hsel, htext, ← List.append_assoc, ← Text.byteLength_append,
      Span.fits_append_right] at hfits
    rwa [heq, ← List.append_assoc, ← Text.byteLength_append, Span.fits_append_right]
  · rw [heq, Span.fits_append_left _ (Nat.le_refl _)]
    exact Span.fits_empty (Nat.le_refl _) (Text.isBoundary_byteLength _)

theorem movesSelection_of_preview {cursor : Nat} (hfits : doc.selection.Fits doc.text)
    (hpreview : doc.preview cursor = .ok toggled) :
    doc.MovesSelection (doc.change toggled) (doc.apply toggled) := by
  have h := replaces_of_preview hpreview
  have hpos := byteLength_replaced_pos h
  have hle := hfits.start_le
  have htext := doc.text_eq_append h.start_le
  have hcases := selectionAfter_cases h hle
  refine ⟨rfl, fits_selectionAfter h hfits, ?_, ?_, ?_, ?_, ?_⟩
  · simp only [change, replacedSpan, Span.size]
    omega
  · intro hmany hclear
    show (doc.selectionAfter toggled).covered (doc.apply toggled).text = _
    rw [text_apply_eq, htext]
    rcases hcases with ⟨-, hfront, heq⟩ | ⟨-, start, stop, hsel, heq⟩ | ⟨hor, -⟩
    · rw [heq, Span.covered_append_left _ hfront, Span.covered_append_left _ hfront]
    · rw [heq, hsel, ← List.append_assoc, ← List.append_assoc, ← Text.byteLength_append,
        ← Text.byteLength_append, Span.covered_append_right, Span.covered_append_right]
    · rcases hor with hone | hover
      · exact absurd hmany (by simp [change, hone])
      · exact absurd hover hclear
  · intro hmany (hfront : _ ≤ Text.byteLength (doc.before toggled))
    rcases hcases with ⟨-, -, heq⟩ | ⟨-, start, stop, hsel, -⟩ | ⟨hone | hover, -⟩
    · exact heq
    · rw [hsel] at hfront
      simp only at hfront
      omega
    · exact absurd hmany (by simp [change, hone])
    · exact absurd hover.2 (Nat.not_lt_of_le hfront)
  · intro hmany hbehind
    rcases hcases with ⟨-, hfront, -⟩ | ⟨-, start, stop, hsel, heq⟩ | ⟨hone | hover, -⟩
    · simp only [change, replacedSpan] at hbehind
      omega
    · show _ - (doc.selectionAfter toggled).start = _ ∧
        _ - (doc.selectionAfter toggled).stop = _
      rw [heq, hsel, text_apply_eq, htext]
      simp only [Text.byteLength_append]
      omega
    · exact absurd hmany (by simp [change, hone])
    · exact absurd hover.1 (Nat.not_lt_of_le hbehind)
  · intro hnot
    rcases hcases with ⟨hmany, hfront, -⟩ | ⟨hmany, start, stop, hsel, -⟩ | ⟨-, heq⟩
    · exact absurd ⟨hmany, fun hover => Nat.not_lt_of_le hfront hover.2⟩ hnot
    · refine absurd ⟨hmany, fun hover => ?_⟩ hnot
      have hstart := hover.1
      rw [hsel] at hstart
      simp only [change, replacedSpan] at hstart
      omega
    · exact heq

end

/-! ## A run -/

/-- Whether a call that selects something selects a good range of the text. -/
def Action.FitsIn (text : Text) : Action → Prop
  | .select selection => selection.Fits text
  | .toggle _ | .preview _ => True

/-- Every selecting call selects a good range of the text there is by then. -/
def SelectsWithin (doc : Document) : List Action → Prop
  | [] => True
  | action :: rest => action.FitsIn doc.text ∧ (doc.perform action).2.SelectsWithin rest

theorem SelectsWithin.of_append {done rest : List Action} :
    ∀ {doc : Document}, doc.SelectsWithin (done ++ rest) → doc.SelectsWithin done := by
  induction done with
  | nil => intro doc _; trivial
  | cons action done ih => exact fun h => ⟨h.1, ih h.2⟩

theorem fits_perform {doc : Document} {action : Action}
    (hfits : doc.selection.Fits doc.text) (haction : action.FitsIn doc.text) :
    (doc.perform action).2.selection.Fits (doc.perform action).2.text := by
  cases action with
  | toggle line =>
      rcases doc.perform_toggle_cases line with ⟨toggled, hpreview, heq⟩ | ⟨error, heq⟩
      · rw [heq]
        exact fits_selectionAfter (replaces_of_preview hpreview) hfits
      · rw [heq]
        exact hfits
  | preview line =>
      simp only [perform]
      cases doc.preview line <;> exact hfits
  | select selection => exact haction

theorem fits_run (actions : List Action) :
    ∀ {doc : Document}, doc.selection.Fits doc.text → doc.SelectsWithin actions →
      (doc.run actions).2.selection.Fits (doc.run actions).2.text := by
  induction actions with
  | nil => exact fun hfits _ => hfits
  | cons action rest ih =>
      intro doc hfits hs
      exact ih (fits_perform hfits hs.1) hs.2

theorem fits_ofBytes {bytes : Bytes} {doc : Document} (h : ofBytes bytes = .ok doc) :
    doc.selection.Fits doc.text := by
  rw [ofBytes] at h
  cases hd : Utf8.decode bytes with
  | error fault => rw [hd] at h; cases h
  | ok text =>
      rw [hd] at h
      cases h
      exact Span.fits_empty (Nat.le_refl _) (Text.isBoundary_byteLength _)

/-- As long as a user selects whole characters, whole characters are selected after
every call, and a toggle takes the selection along wherever it leaves its text alone. -/
theorem run_keeps_selection {bytes : Bytes} {doc : Document} {actions done : List Action}
    (hopen : ofBytes bytes = .ok doc) (hs : doc.SelectsWithin actions)
    (hdone : done <+: actions) :
    let now := (doc.run done).2
    now.selection.Fits now.text ∧
      ∀ line next change, now.toggle line = .ok (next, change) →
        now.MovesSelection change next := by
  intro now
  obtain ⟨rest, rfl⟩ := hdone
  have hfits : now.selection.Fits now.text := fits_run done (fits_ofBytes hopen) hs.of_append
  refine ⟨hfits, fun line next change htoggle => ?_⟩
  obtain ⟨toggled, hpreview, rfl, rfl⟩ := exists_of_toggle htoggle
  exact movesSelection_of_preview hfits hpreview

/-- The last line is selected, behind a block that becomes larger. -/
theorem run_keeps_selection_behind :
    let text : Text := ['f', ' ', '{', ' ', 'é', ' ', '}', '\n', 'é', 'x', '\n']
    let actions : List Action := [.toggle 5, .select ⟨9, 12⟩]
    let now := ((ofText text).run actions).2
    ∃ next change, now.toggle 0 = .ok (next, change) ∧ next.selection = ⟨14, 17⟩ ∧
      next.selection.Fits next.text ∧
      next.selection.covered next.text = Utf8.encode ['é', 'x'] := by
  intro text actions now
  have hopen : ofBytes (Utf8.encode text) = .ok (ofText text) := by decide +kernel
  have hs : (ofText text).SelectsWithin actions :=
    ⟨trivial, show Span.Fits ⟨9, 12⟩ _ by decide +kernel, trivial⟩
  have h := run_keeps_selection hopen hs (List.prefix_refl _)
  have htoggle : now.toggle 0 = .ok
      (⟨['f', ' ', 'd', 'o', '\n', ' ', ' ', 'é', '\n', 'e', 'n', 'd', '\n', 'é', 'x',
          '\n'], ⟨14, 17⟩, 1, .lf⟩,
        ⟨⟨0, 14⟩, ⟨14, 17⟩, 1, ⟨[['f', ' ', 'd', 'o'], [' ', ' ', 'é'], ['e', 'n', 'd']],
          0, 0⟩⟩) := by
    decide +kernel
  have hmoves := h.2 0 _ _ htoggle
  refine ⟨_, _, htoggle, rfl, hmoves.fits, ?_⟩
  rw [hmoves.covered_eq (by decide) (by decide +kernel)]
  decide +kernel

end Document

end RubyBlocks
