import RubyBlocks.Proofs.Edit
import RubyBlocks.Proofs.Visible

/-!
# A toggle changes the text

Whatever a toggle does to a block, it does not leave the text as it was. A text that
stays the same keeps its lines, so a conversion would have to give back the lines of
the block, up to a carriage return at the end of the text, which does not show.

A brace on one line becomes three, and on several lines the first of them has another
delimiter afterwards, in the same place. A long block of keywords is no different. This
leaves a block of keywords that stands on one line and is laid out anew: there the place
of the delimiter may change, but two words became single characters, so there is less
to be seen on the line.
-/

namespace RubyBlocks

namespace Block

theorem visible_fold_singleton (line : Text) :
    Text.visible (fold [line]) = Text.visible line := by
  rw [fold, Text.visible_append, Text.visible_dropWhile, Text.visible_squeeze,
    List.intercalate_singleton]
  simp [Text.visible_indentation]

theorem length_visible_replaceKeyword_lt {side : Side} {column k : Nat} {brace : Char}
    {line : Text} (h : Marker.find side .keyword line column = some k) :
    (Text.visible (replaceKeyword side column [brace] line)).length <
      (Text.visible line).length := by
  obtain ⟨front, back, rfl, rfl, -, -⟩ :=
    Marker.standsIn_keyword_iff.1 (Marker.find_eq_some_iff.1 h).2.1
  have hbrace : (Text.visible [brace]).length ≤ 1 := List.length_filter_le _ _
  have hkeyword : 2 ≤ (Text.visible side.keyword).length := by
    cases side <;> decide +kernel
  rw [replaceKeyword, h]
  simp only
  rw [List.take_left, ← List.append_assoc front side.keyword back, ← List.length_append,
    List.drop_left]
  simp only [Text.visible_append, List.length_append]
  omega

theorem length_visible_replaceKeyword_le (side : Side) (column : Nat) (brace : Char)
    (line : Text) :
    (Text.visible (replaceKeyword side column [brace] line)).length ≤
      (Text.visible line).length := by
  cases h : Marker.find side .keyword line column with
  | none => rw [replaceKeyword, h]
  | some k => exact Nat.le_of_lt (length_visible_replaceKeyword_lt h)

/-- A line that is converted in its place starts another way from the delimiter on. -/
theorem Encloses.ne_opening {lines : List Text} {cursor : Nat} {block : Block} {line : Text}
    (h : Encloses lines cursor block) (hline : lines[block.opening.line]? = some line) :
    (block.style = .keyword →
        line ≠ replaceKeyword .opening block.opening.column ['{'] line) ∧
      (block.style = .brace → ∀ arguments,
        line ≠ keywordOpening line block.opening.column arguments) := by
  have hstands := h.standsIn_opening hline
  refine ⟨fun hstyle heq => ?_, fun hstyle arguments heq => ?_⟩
  · rw [hstyle] at hstands
    obtain ⟨front, back, rfl, hlen, hleft, hright⟩ := Marker.wholeWordAt_of_standsIn hstands
    have hword : Marker.StandsIn .opening .keyword
        (front ++ (Side.opening.keyword ++ back)) front.length :=
      Marker.standsIn_keyword_iff.2 ⟨front, back, rfl, rfl, hleft, hright⟩
    rw [← hlen, replaceKeyword_append _ hword] at heq
    exact absurd (List.append_cancel_left heq) (by simp [Side.keyword])
  · rw [hstyle] at hstands
    obtain ⟨front, c, back, rfl, hlen, -⟩ := Marker.opensAt_of_standsIn hstands
    rw [keywordOpening, ← hlen, List.take_length_add_append] at heq
    simp only [List.append_assoc] at heq
    exact absurd (List.append_cancel_left heq) (by simp [Side.keyword])

/-- The lines of a block that was found are not those it is converted into, also if the
last of these is shown with other blanks. -/
theorem Encloses.ne_of_converts {lines own init : List Text} {cursor : Nat} {block : Block}
    {last shown : Text} (h : Encloses lines cursor block)
    (hown : sourceLines lines block = .ok own) (hconv : Converts block own (init ++ [last]))
    (hshown : Text.visible shown = Text.visible last) : own ≠ init ++ [shown] := by
  intro heq
  have hlen := congrArg List.length heq
  have hclosing : lines[block.closing.line]? = some shown :=
    getElem?_closing_of_sourceLines (heq ▸ hown)
  have hopening : ∀ first rest, own = first :: rest →
      lines[block.opening.line]? = some first := by
    rintro first rest rfl
    have hget := getElem?_of_sourceLines hown (i := 0) (by simp)
    simpa using hget
  generalize hnew : init ++ [last] = new at hconv
  have hnewlen := congrArg List.length hnew
  rw [List.length_append, List.length_singleton] at hlen hnewlen
  cases hconv with
  | folded style short =>
      obtain ⟨rfl, hlast⟩ := List.append_inj' (hnew.trans (List.nil_append _).symm) rfl
      injection hlast with hlast
      subst hlast heq
      have hstands := h.standsIn_closing hclosing
      rw [style] at hstands
      have hfind := Marker.find_keyword_of_standsIn
        (Marker.standsIn_keyword_iff.2 (Marker.wholeWordAt_of_standsIn hstands))
      have hlt : (Text.visible (replaceKeyword .closing block.closing.column ['}'] shown)).length <
          (Text.visible shown).length := length_visible_replaceKeyword_lt hfind
      have hle := length_visible_replaceKeyword_le .opening block.opening.column '{'
        (replaceKeyword .closing block.closing.column ['}'] shown)
      have hfold : Text.visible (fold (bracesForKeywords block [shown])) =
          Text.visible (replaceKeyword .opening block.opening.column ['{']
            (replaceKeyword .closing block.closing.column ['}'] shown)) :=
        visible_fold_singleton _
      rw [List.nil_append, hfold] at hshown
      rw [← hshown] at hle
      omega
  | swapped style long =>
      obtain ⟨rfl, -⟩ := List.append_inj' (hnew.trans List.cons_append.symm) rfl
      injection heq with hfirst
      exact (h.ne_opening (hopening _ _ rfl)).1 style hfirst
  | unfolded style =>
      rw [List.length_singleton] at hlen
      simp only [List.length_cons, List.length_nil] at hnewlen
      omega
  | cut style =>
      obtain ⟨rfl, -⟩ := List.append_inj' (hnew.trans List.cons_append.symm) rfl
      injection heq with hfirst
      exact (h.ne_opening (hopening _ _ rfl)).2 style _ hfirst

end Block

namespace Document

theorem text_apply_ne {doc : Document} {cursor : Nat} {toggled : Toggled}
    (h : doc.preview cursor = .ok toggled) : (doc.apply toggled).text ≠ doc.text := by
  intro heq
  obtain ⟨block, own, new, hencl, hown, hconv, rfl⟩ := Block.exists_of_toggle h
  obtain ⟨init, last, hnew⟩ := (replaces_of_converts hencl hown hconv).exists_concat
  obtain rfl : new = init ++ [last] := hnew
  have hlines := lines_apply_of_converts hencl hown hconv
  rw [lines, heq, ← lines] at hlines
  have hcut : doc.lines = doc.lines.take block.opening.line ++
      (own ++ doc.lines.drop (block.closing.line + 1)) := by
    have hraw := congrArg (List.map Text.withoutEnding)
      (doc.rawLines_eq_append (replaces_of_converts hencl hown hconv).start_le)
    rw [List.map_append, List.map_append, map_withoutEnding_rawReplaced, List.map_take,
      List.map_drop] at hraw
    rw [← (Block.eq_of_sourceLines hown).1]
    exact hraw
  have hown' := List.append_cancel_right
    (List.append_cancel_left (hcut.symm.trans hlines))
  refine hencl.ne_of_converts hown hconv ?_ hown'
  split
  · by_cases hr : last.getLast? = some '\r'
    · obtain ⟨front, rfl⟩ := List.getLast?_eq_some_iff.1 hr
      have hblank : Text.visible ['\r'] = [] := by decide +kernel
      rw [Text.dropFinal_concat, Text.visible_append, hblank, List.append_nil]
    · rw [Text.dropFinal_of_ne hr]
  · rfl

end Document

end RubyBlocks
