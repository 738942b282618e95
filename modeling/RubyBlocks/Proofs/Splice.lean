import RubyBlocks.Document.Basic
import RubyBlocks.Proofs.Lines
import RubyBlocks.Proofs.Search

/-!
# A toggle replaces lines

Applying a toggle exchanges some raw lines for the new ones, written with one line
ending, and leaves the other raw lines alone: `rawLines_apply_eq`. Everything else is
read off that equation. The new document has the lines one expects
(`lines_apply_eq`), as long as no new line ends in a carriage return that a line feed
would take along.

On a document that uses one line ending throughout, the new lines get this ending
too. Such a document has the lines one expects (`lines_apply`), it uses the same
ending (`uniform_apply`), and putting the old lines back where the new ones are gives
the old text (`text_apply_apply`), which is half of every round trip.

Two details decide whether a text comes back. The last line of a text need not have
an ending, and then neither may what replaces it; that is `finalEnding`. And a
carriage return at the very end of a text is shown as part of an ending that is not
there, so a block that stands there would lose it.
-/

namespace RubyBlocks

namespace Text

theorem hasPart_iff {part : Text} :
    ∀ {text : Text}, hasPart part text = true ↔ part <:+: text
  | [] => by simp [hasPart, suffixes]
  | c :: text => by
      have ih : hasPart part text = true ↔ part <:+: text := hasPart_iff
      rw [hasPart] at ih ⊢
      rw [suffixes, List.any_cons, Bool.or_eq_true, ih,
        List.isPrefixOf_iff_prefix, List.infix_cons_iff]

theorem getLast?_flatten_terminated {raws : List Text}
    (h : ∀ raw ∈ raws, Terminated raw) :
    raws.flatten.getLast? = none ∨ raws.flatten.getLast? = some '\n' := by
  rcases List.eq_nil_or_concat raws with rfl | ⟨init, last, rfl⟩
  · exact Or.inl rfl
  · rw [List.concat_eq_append] at h ⊢
    obtain ⟨line, -, rfl⟩ := h last (by simp)
    right
    rw [List.flatten_append, List.flatten_singleton, ← List.append_assoc,
      List.getLast?_concat]

end Text

namespace Document

/-- All line feeds of the document belong to the line ending it was opened with. -/
def Uniform (doc : Document) : Prop := Text.UsesEnding doc.lineEnding doc.text

instance (doc : Document) : Decidable doc.Uniform :=
  inferInstanceAs (Decidable (Text.UsesEnding _ _))

/-- The toggle puts some lines, at least one, in the place of others, of which the
last is not empty. -/
structure Replaces (doc : Document) (toggled : Toggled) : Prop where
  start_le : toggled.startLine ≤ toggled.endLine
  end_lt : toggled.endLine < (Text.rawLines doc.text).length
  last_ne : (Text.rawLines doc.text)[toggled.endLine]? ≠ some []
  lines_ne : toggled.lines ≠ []
  no_feed : ∀ line ∈ toggled.lines, '\n' ∉ line

theorem Replaces.exists_concat {doc : Document} {toggled : Toggled}
    (h : doc.Replaces toggled) : ∃ init last, toggled.lines = init ++ [last] :=
  ⟨_, _, (List.dropLast_concat_getLast h.lines_ne).symm⟩

/-- What ends the last of the replaced lines: nothing, at the end of the text. -/
def finalEnding (doc : Document) (toggled : Toggled) : Text :=
  if toggled.endLine + 1 = (Text.rawLines doc.text).length then []
  else doc.lineEnding.text

/-- The raw lines that a toggle replaces. -/
def rawReplaced (doc : Document) (toggled : Toggled) : List Text :=
  ((Text.rawLines doc.text).take (toggled.endLine + 1)).drop toggled.startLine

theorem length_lines (doc : Document) :
    doc.lines.length = (Text.rawLines doc.text).length := by
  rw [lines, Text.lines, List.length_map]

theorem not_mem_of_mem_lines {doc : Document} {line : Text}
    (h : line ∈ doc.lines) : '\n' ∉ line := by
  obtain ⟨raw, hraw, rfl⟩ := List.mem_map.1 h
  exact Text.not_mem_withoutEnding hraw

/-- With the short ending no line but the last can end in a carriage return. -/
theorem getLast?_ne_of_lf {doc : Document} (hu : doc.Uniform)
    (hlf : doc.lineEnding = .lf) {n : Nat} {line : Text}
    (hn : n < doc.lines.length) (hline : line ∈ doc.lines.take n) :
    line.getLast? ≠ some '\r' := by
  rw [length_lines] at hn
  rw [lines, Text.lines, ← List.map_take] at hline
  obtain ⟨raw, hraw, rfl⟩ := List.mem_map.1 hline
  have hmem : raw ∈ (Text.rawLines doc.text).dropLast := by
    rw [List.dropLast_eq_take]
    exact List.take_subset_take_left _ (by omega) hraw
  obtain ⟨front, -, rfl⟩ := Text.terminated_of_mem_dropLast doc.text hmem
  have heq := (Text.usesEnding_iff_rawLines doc.text).1 hu _ hmem
  have hr := Text.terminated_eq_append_iff.1 heq
  rw [hlf, LineEnding.text] at heq
  rw [← List.append_cancel_right heq]
  intro hlast
  exact absurd (hlf ▸ hr.1 hlast) (by simp)

theorem toggle_eq_ok {doc : Document} {cursor : Nat} {toggled : Toggled}
    (h : Block.toggle doc.lines cursor = .ok toggled) :
    doc.toggle cursor = .ok (doc.apply toggled, doc.change toggled) := by
  rw [toggle, preview, h]
  rfl

theorem exists_of_toggle {doc next : Document} {cursor : Nat} {change : Change}
    (h : doc.toggle cursor = .ok (next, change)) :
    ∃ toggled, doc.preview cursor = .ok toggled ∧ next = doc.apply toggled ∧
      change = doc.change toggled := by
  rw [toggle] at h
  cases hpreview : doc.preview cursor with
  | error e => rw [hpreview] at h; cases h
  | ok toggled =>
      rw [hpreview] at h
      cases h
      exact ⟨toggled, rfl, rfl, rfl⟩

/-- A line with a marker on it is not empty, with or without its ending. -/
theorem getElem?_rawLines_ne_nil {doc : Document} {cursor : Nat} {block : Block}
    (h : Block.Encloses doc.lines cursor block) :
    (Text.rawLines doc.text)[block.closing.line]? ≠ some [] := by
  intro hnil
  have hline : doc.lines[block.closing.line]? = some [] := by
    rw [lines, Text.lines, List.getElem?_map, hnil]
    rfl
  have hfind := h.find_closing hline
  obtain ⟨-, hs, -⟩ := Marker.find_eq_some_iff.1 hfind
  exact absurd hs.lt_length (Nat.not_lt_zero _)

/-! ## The text around a toggle -/

theorem rawLines_eq_append (doc : Document) {toggled : Toggled}
    (h : toggled.startLine ≤ toggled.endLine) :
    Text.rawLines doc.text =
      (Text.rawLines doc.text).take toggled.startLine ++
        (doc.rawReplaced toggled ++
          (Text.rawLines doc.text).drop (toggled.endLine + 1)) := by
  have hmin : min toggled.startLine (toggled.endLine + 1) = toggled.startLine := by
    omega
  have hfront := List.take_append_drop toggled.startLine
    ((Text.rawLines doc.text).take (toggled.endLine + 1))
  rw [List.take_take, hmin] at hfront
  rw [rawReplaced, ← List.append_assoc, hfront, List.take_append_drop]

theorem text_eq_append (doc : Document) {toggled : Toggled}
    (h : toggled.startLine ≤ toggled.endLine) :
    doc.text =
      doc.before toggled ++ (doc.replaced toggled ++ doc.after toggled) := by
  have hflat := congrArg List.flatten (doc.rawLines_eq_append h)
  rw [Text.flatten_rawLines, List.flatten_append, List.flatten_append] at hflat
  exact hflat

theorem mem_dropLast_of_mem_take (doc : Document) {n : Nat} {raw : Text}
    (hn : n < (Text.rawLines doc.text).length)
    (hraw : raw ∈ (Text.rawLines doc.text).take n) :
    raw ∈ (Text.rawLines doc.text).dropLast := by
  rw [List.dropLast_eq_take]
  exact List.take_subset_take_left _ (by omega) hraw

theorem mem_take_of_getElem? (doc : Document) {i : Nat} {raw : Text}
    (h : (Text.rawLines doc.text)[i]? = some raw) :
    raw ∈ (Text.rawLines doc.text).take (i + 1) :=
  List.mem_of_getElem? ((List.getElem?_take_of_lt (Nat.lt_succ_self i)).trans h)

theorem terminated_of_mem_take (doc : Document) {n : Nat} {raw : Text}
    (hn : n < (Text.rawLines doc.text).length)
    (hraw : raw ∈ (Text.rawLines doc.text).take n) : Text.Terminated raw :=
  Text.terminated_of_mem_dropLast doc.text (doc.mem_dropLast_of_mem_take hn hraw)

section

variable {doc : Document} {toggled : Toggled}

theorem terminated_before (h : doc.Replaces toggled) :
    ∀ raw ∈ (Text.rawLines doc.text).take toggled.startLine,
      Text.Terminated raw := by
  intro raw hraw
  have hlt := h.end_lt
  have hle := h.start_le
  exact doc.terminated_of_mem_take (by omega) hraw

/-- The last of the replaced raw lines, with those before it. -/
theorem exists_rawReplaced_eq (h : doc.Replaces toggled) :
    ∃ raw, (Text.rawLines doc.text)[toggled.endLine]? = some raw ∧ raw ≠ [] ∧
      doc.rawReplaced toggled = ((Text.rawLines doc.text).take
        toggled.endLine).drop toggled.startLine ++ [raw] ∧
      (doc.replaced toggled).getLast? = raw.getLast? := by
  obtain ⟨raw, hraw⟩ : ∃ raw, (Text.rawLines doc.text)[toggled.endLine]? =
    some raw := ⟨_, List.getElem?_eq_getElem h.end_lt⟩
  have hne : raw ≠ [] := fun hnil => h.last_ne (by rw [hraw, hnil])
  have hlen : toggled.startLine ≤
      ((Text.rawLines doc.text).take toggled.endLine).length := by
    rw [List.length_take]
    have := h.start_le
    have := h.end_lt
    omega
  have hcut : doc.rawReplaced toggled =
      ((Text.rawLines doc.text).take toggled.endLine).drop toggled.startLine ++
        [raw] := by
    rw [rawReplaced, List.take_add_one, hraw, Option.toList_some,
      List.drop_append_of_le_length hlen]
  refine ⟨raw, hraw, hne, hcut, ?_⟩
  rw [replaced, ← rawReplaced, hcut, List.flatten_append, List.flatten_singleton,
    List.getLast?_append, Option.or_of_isSome (List.getLast?_isSome.2 hne)]

theorem map_withoutEnding_rawReplaced :
    (doc.rawReplaced toggled).map Text.withoutEnding =
      (doc.lines.take (toggled.endLine + 1)).drop toggled.startLine := by
  rw [lines, Text.lines, rawReplaced, List.map_drop, List.map_take]

theorem getLast?_replaced (h : doc.Replaces toggled) :
    (doc.replaced toggled).getLast? = some '\n' ↔
      toggled.endLine + 1 ≠ (Text.rawLines doc.text).length := by
  obtain ⟨raw, hraw, -, -, hlast⟩ := exists_rawReplaced_eq h
  have hlt := h.end_lt
  rw [hlast]
  refine ⟨fun hfeed hend => ?_, fun hend => ?_⟩
  · have hfinal : (Text.rawLines doc.text).getLast? = some raw := by
      rw [List.getLast?_eq_getElem?, ← hend]
      exact hraw
    exact Text.not_mem_of_getLast? doc.text hfinal (List.mem_of_getLast? hfeed)
  · obtain ⟨line, -, rfl⟩ :=
      doc.terminated_of_mem_take (by omega) (doc.mem_take_of_getElem? hraw)
    exact List.getLast?_concat

/-- The text that a toggle writes is its lines, all with the same ending. The last
one has none at the end of the text. -/
theorem replacement_eq_flatten (h : doc.Replaces toggled) :
    doc.replacement toggled =
      (Text.terminate (doc.endingFor (doc.replaced toggled)).text
        (if toggled.endLine + 1 = (Text.rawLines doc.text).length then []
          else (doc.endingFor (doc.replaced toggled)).text)
        toggled.lines).flatten := by
  have hfinal : (if (doc.replaced toggled).getLast? = some '\n' then
      (doc.endingFor (doc.replaced toggled)).text else []) =
        if toggled.endLine + 1 = (Text.rawLines doc.text).length then []
          else (doc.endingFor (doc.replaced toggled)).text := by
    by_cases hend : toggled.endLine + 1 = (Text.rawLines doc.text).length
    · rw [if_pos hend, if_neg fun hfeed => (getLast?_replaced h).1 hfeed hend]
    · rw [if_neg hend, if_pos ((getLast?_replaced h).2 hend)]
  simp only [replacement]
  rw [hfinal, Text.flatten_terminate h.lines_ne]

/-! ## The document after a toggle -/

theorem rawLines_apply_eq (h : doc.Replaces toggled) :
    Text.rawLines (doc.apply toggled).text =
      (Text.rawLines doc.text).take toggled.startLine ++
        (Text.terminate (doc.endingFor (doc.replaced toggled)).text
          (if toggled.endLine + 1 = (Text.rawLines doc.text).length then []
            else (doc.endingFor (doc.replaced toggled)).text) toggled.lines ++
          (Text.rawLines doc.text).drop (toggled.endLine + 1)) := by
  have hlt := h.end_lt
  simp only [apply]
  rw [before, List.append_assoc, Text.rawLines_append (terminated_before h),
    replacement_eq_flatten h, after]
  split <;> rename_i hend
  · rw [hend, List.drop_length, List.flatten_nil, List.append_nil, List.append_nil,
      Text.rawLines_terminate h.lines_ne h.no_feed]
  · rw [Text.rawLines_terminate_append h.lines_ne h.no_feed,
      Text.rawLines_flatten_drop doc.text (by omega)]

/-- The new lines stand where the old ones stood. A carriage return at the end of the
text does not show. -/
theorem lines_apply_eq (h : doc.Replaces toggled) {init : List Text} {last : Text}
    (hlines : toggled.lines = init ++ [last])
    (hinit : doc.endingFor (doc.replaced toggled) = .lf → ∀ line ∈ init,
      line.getLast? ≠ some '\r')
    (hlast : doc.endingFor (doc.replaced toggled) = .lf →
      toggled.endLine + 1 ≠ (Text.rawLines doc.text).length →
        last.getLast? ≠ some '\r') :
    (doc.apply toggled).lines = doc.lines.take toggled.startLine ++
      ((init ++ [if toggled.endLine + 1 = (Text.rawLines doc.text).length then
          Text.dropFinal '\r' last else last]) ++
        doc.lines.drop (toggled.endLine + 1)) := by
  have hend : Text.withoutEnding (last ++
      if toggled.endLine + 1 = (Text.rawLines doc.text).length then []
        else (doc.endingFor (doc.replaced toggled)).text) =
      if toggled.endLine + 1 = (Text.rawLines doc.text).length then
        Text.dropFinal '\r' last else last := by
    split <;> rename_i hend
    · have hfeed := h.no_feed last (by rw [hlines]; simp)
      rw [List.append_nil, Text.withoutEnding,
        Text.dropFinal_of_ne fun hl => hfeed (List.mem_of_getLast? hl)]
    · exact Text.withoutEnding_append fun he => hlast he hend
  rw [lines, Text.lines, rawLines_apply_eq h, hlines, List.map_append,
    List.map_append, Text.map_withoutEnding_terminate hinit, hend, List.map_take,
    List.map_drop]
  rfl

/-! ## Documents with one line ending -/

/-- The new lines get the document's ending, whether it is read off the replaced
ones or not. -/
theorem endingFor_replaced (hu : doc.Uniform) (h : doc.Replaces toggled) :
    doc.endingFor (doc.replaced toggled) = doc.lineEnding := by
  have htext := doc.text_eq_append h.start_le
  have hends := Text.usesEnding_iff.1 hu
  rw [endingFor]
  split <;> rename_i hfeed
  · rw [List.contains_iff_mem] at hfeed
    rw [LineEnding.detect]
    cases hend : doc.lineEnding with
    | lf =>
        -- A longer ending in the replaced text would be one in the document.
        refine if_neg fun hpart => ?_
        obtain ⟨front, back, hcut⟩ := Text.hasPart_iff.1 hpart
        have hr := hends (doc.before toggled ++ front ++ ['\r'])
          (back ++ doc.after toggled)
          (by rw [htext, ← hcut]; simp [LineEnding.text])
        rw [List.getLast?_concat, hend] at hr
        exact absurd (hr.1 rfl) (by simp)
    | crlf =>
        -- The carriage return of a line feed stands on the same line.
        obtain ⟨front, back, hcut⟩ := List.append_of_mem hfeed
        have hr := (hends (doc.before toggled ++ front) (back ++ doc.after toggled)
          (by rw [htext, hcut]; simp)).2 hend
        refine if_pos (Text.hasPart_iff.2 ?_)
        rcases List.eq_nil_or_concat front with rfl | ⟨init, c, rfl⟩
        · rw [List.append_nil, before] at hr
          rcases Text.getLast?_flatten_terminated (terminated_before h) with
            hnone | hsome
          · rw [hnone] at hr; exact absurd hr (by simp)
          · rw [hsome] at hr; exact absurd hr (by simp)
        · rw [List.concat_eq_append] at hr hcut
          rw [← List.append_assoc, List.getLast?_concat] at hr
          injection hr with hr
          subst hr
          exact ⟨init, back, by rw [hcut]; simp [LineEnding.text]⟩
  · rfl

theorem replacement_eq (hu : doc.Uniform) (h : doc.Replaces toggled) :
    doc.replacement toggled =
      (Text.terminate doc.lineEnding.text (doc.finalEnding toggled)
        toggled.lines).flatten := by
  rw [replacement_eq_flatten h, endingFor_replaced hu h, finalEnding]

theorem rawLines_apply (hu : doc.Uniform) (h : doc.Replaces toggled) :
    Text.rawLines (doc.apply toggled).text =
      (Text.rawLines doc.text).take toggled.startLine ++
        (Text.terminate doc.lineEnding.text (doc.finalEnding toggled) toggled.lines ++
          (Text.rawLines doc.text).drop (toggled.endLine + 1)) := by
  rw [rawLines_apply_eq h, endingFor_replaced hu h, finalEnding]

theorem length_rawLines_apply (hu : doc.Uniform) (h : doc.Replaces toggled) :
    (Text.rawLines (doc.apply toggled).text).length + toggled.endLine + 1 =
      (Text.rawLines doc.text).length + toggled.startLine +
        toggled.lines.length := by
  have hlt := h.end_lt
  have hle := h.start_le
  rw [rawLines_apply hu h, List.length_append, List.length_append,
    List.length_take_of_le (by omega), Text.length_terminate, List.length_drop]
  omega

theorem lines_apply (hu : doc.Uniform) (h : doc.Replaces toggled)
    (hlf : doc.lineEnding = .lf → ∀ line ∈ toggled.lines,
      line.getLast? ≠ some '\r')
    (hlast : ∀ line, toggled.lines.getLast? = some line →
      line.getLast? ≠ some '\r') :
    (doc.apply toggled).lines = doc.lines.take toggled.startLine ++
      (toggled.lines ++ doc.lines.drop (toggled.endLine + 1)) := by
  obtain ⟨init, last, hlines⟩ := h.exists_concat
  have hends := hlast last (by rw [hlines, List.getLast?_concat])
  rw [lines_apply_eq h hlines, Text.dropFinal_of_ne hends, ite_self, ← hlines]
  · intro he line hline
    rw [endingFor_replaced hu h] at he
    exact hlf he line (by rw [hlines]; exact List.mem_append_left _ hline)
  · exact fun _ _ => hends

theorem uniform_apply (hu : doc.Uniform) (h : doc.Replaces toggled)
    {init : List Text} {last : Text} (hlines : toggled.lines = init ++ [last])
    (hinit : doc.lineEnding = .lf → ∀ line ∈ init, line.getLast? ≠ some '\r')
    (hlast : doc.lineEnding = .lf →
      toggled.endLine + 1 ≠ (Text.rawLines doc.text).length →
        last.getLast? ≠ some '\r') : (doc.apply toggled).Uniform := by
  have hlt := h.end_lt
  have hle := h.start_le
  have hold := (Text.usesEnding_iff_rawLines doc.text).1 hu
  have hnew : ∀ raw ∈ init.map (· ++ doc.lineEnding.text),
      raw = Text.withoutEnding raw ++ doc.lineEnding.text := by
    intro raw hraw
    obtain ⟨line, hline, rfl⟩ := List.mem_map.1 hraw
    rw [Text.withoutEnding_append fun he => hinit he line hline]
  have hbefore : ∀ raw ∈ (Text.rawLines doc.text).take toggled.startLine,
      raw = Text.withoutEnding raw ++ doc.lineEnding.text := fun raw hraw =>
    hold raw (doc.mem_dropLast_of_mem_take (by omega) hraw)
  refine (Text.usesEnding_iff_rawLines _).2 fun raw hraw => ?_
  rw [rawLines_apply hu h, hlines, Text.terminate_concat, finalEnding] at hraw
  split at hraw <;> rename_i hend
  · rw [hend, List.drop_length, List.append_nil, ← List.append_assoc,
      List.dropLast_concat] at hraw
    rcases List.mem_append.1 hraw with hmem | hmem
    · exact hbefore raw hmem
    · exact hnew raw hmem
  · have hne : (Text.rawLines doc.text).drop (toggled.endLine + 1) ≠ [] := by
      rw [Ne, List.drop_eq_nil_iff]
      omega
    rw [← List.append_assoc, List.dropLast_append_of_ne_nil hne] at hraw
    rcases List.mem_append.1 hraw with hmem | hmem
    · rcases List.mem_append.1 hmem with hmem | hmem
      · exact hbefore raw hmem
      · rcases List.mem_append.1 hmem with hmem | hmem
        · exact hnew raw hmem
        · rw [List.mem_singleton.1 hmem,
            Text.withoutEnding_append fun he => hlast he hend]
          rfl
    · refine hold raw ?_
      rw [← List.take_append_drop (toggled.endLine + 1) (Text.rawLines doc.text),
        List.dropLast_append_of_ne_nil hne]
      exact List.mem_append_right _ hmem

/-! ## Putting the old lines back -/

theorem rawReplaced_eq_terminate (hu : doc.Uniform) (h : doc.Replaces toggled)
    (hstray : toggled.endLine + 1 = (Text.rawLines doc.text).length →
      doc.text.getLast? ≠ some '\r') :
    doc.rawReplaced toggled =
      Text.terminate doc.lineEnding.text (doc.finalEnding toggled)
        ((doc.lines.take (toggled.endLine + 1)).drop toggled.startLine) := by
  obtain ⟨raw, hraw, hne, hcut, hlast⟩ := exists_rawReplaced_eq h
  have hlt := h.end_lt
  have hold := (Text.usesEnding_iff_rawLines doc.text).1 hu
  rw [← map_withoutEnding_rawReplaced]
  refine Text.eq_terminate (fun r hr => hold r ?_) fun r hr => ?_
  · rw [hcut, List.dropLast_concat] at hr
    exact doc.mem_dropLast_of_mem_take hlt (List.mem_of_mem_drop hr)
  · rw [hcut, List.getLast?_concat] at hr
    injection hr with hr
    subst hr
    rw [finalEnding]
    split <;> rename_i hend
    · -- The last line of the text is shown whole, its end being no ending.
      have hfeed : '\n' ∉ raw := by
        refine Text.not_mem_of_getLast? doc.text ?_
        rw [List.getLast?_eq_getElem?, ← hend]
        exact hraw
      have hr : raw.getLast? ≠ some '\r' := by
        have hafter : doc.after toggled = [] := by
          rw [after, hend, List.drop_length, List.flatten_nil]
        have hr := hstray hend
        rwa [doc.text_eq_append h.start_le, hafter, List.append_nil,
          List.getLast?_append, hlast,
          Option.or_of_isSome (List.getLast?_isSome.2 hne)] at hr
      rw [List.append_nil, Text.withoutEnding_of_not_mem hfeed hr]
    · exact hold raw
        (doc.mem_dropLast_of_mem_take (by omega) (doc.mem_take_of_getElem? hraw))

/-- What was replaced comes back when it replaces its replacement. -/
theorem text_apply_apply {back : Toggled} (hu : doc.Uniform)
    (h : doc.Replaces toggled)
    (hlf : doc.lineEnding = .lf → ∀ line ∈ toggled.lines,
      line.getLast? ≠ some '\r')
    (hlast : toggled.lines.getLast? ≠ some [])
    (hstray : toggled.endLine + 1 = (Text.rawLines doc.text).length →
      doc.text.getLast? ≠ some '\r')
    (hstart : back.startLine = toggled.startLine)
    (hend : back.endLine + 1 = toggled.startLine + toggled.lines.length)
    (hlines : back.lines =
      (doc.lines.take (toggled.endLine + 1)).drop toggled.startLine) :
    ((doc.apply toggled).apply back).text = doc.text := by
  have hlt := h.end_lt
  have hle := h.start_le
  have hpos := List.length_pos_iff.2 h.lines_ne
  have hraws := rawLines_apply hu h
  have hlen := length_rawLines_apply hu h
  have htake : ((Text.rawLines doc.text).take toggled.startLine).length =
      toggled.startLine := List.length_take_of_le (by omega)
  -- The new raw lines are cut where the old ones were.
  have hbefore : (doc.apply toggled).before back = doc.before toggled := by
    rw [before, before, hraws, hstart, List.take_left' htake]
  have hafter : (doc.apply toggled).after back = doc.after toggled := by
    rw [after, after, hraws, hend, ← List.append_assoc, List.drop_left']
    rw [List.length_append, htake, Text.length_terminate]
  have hfinal : (doc.apply toggled).finalEnding back =
      doc.finalEnding toggled := by
    rw [finalEnding, finalEnding]
    by_cases hlastLine : toggled.endLine + 1 = (Text.rawLines doc.text).length
    · rw [if_pos hlastLine, if_pos (by omega)]
    · rw [if_neg hlastLine, if_neg (by omega)]
      rfl
  have hback : (doc.apply toggled).Replaces back := by
    refine ⟨by omega, by omega, ?_, ?_, ?_⟩
    · obtain ⟨init, last, hinit⟩ := h.exists_concat
      have hindex : back.endLine = ((Text.rawLines doc.text).take
          toggled.startLine ++ init.map (· ++ doc.lineEnding.text)).length := by
        rw [List.length_append, htake, List.length_map]
        rw [hinit, List.length_append, List.length_singleton] at hend
        omega
      rw [hraws, hinit, Text.terminate_concat, List.append_assoc,
        ← List.append_assoc, hindex, List.getElem?_append_right (Nat.le_refl _),
        Nat.sub_self]
      intro hnil
      rw [List.singleton_append, List.getElem?_cons_zero] at hnil
      injection hnil with hnil
      rw [hinit, List.getLast?_concat, (List.append_eq_nil_iff.1 hnil).1] at hlast
      exact hlast rfl
    · rw [hlines, Ne, List.drop_eq_nil_iff, List.length_take, length_lines]
      omega
    · intro line hline
      rw [hlines] at hline
      exact not_mem_of_mem_lines (List.mem_of_mem_take (List.mem_of_mem_drop hline))
  have huniform : (doc.apply toggled).Uniform := by
    obtain ⟨init, last, hinit⟩ := h.exists_concat
    refine uniform_apply hu h hinit (fun he line hline => ?_) fun he _ => ?_
    · exact hlf he line (by rw [hinit]; exact List.mem_append_left _ hline)
    · exact hlf he last (by rw [hinit]; simp)
  have hreplacement : (doc.apply toggled).replacement back =
      doc.replaced toggled := by
    rw [replacement_eq huniform hback, hfinal, hlines]
    rw [show (doc.apply toggled).lineEnding = doc.lineEnding from rfl,
      ← rawReplaced_eq_terminate hu h hstray]
    rfl
  have htext : ((doc.apply toggled).apply back).text =
      (doc.apply toggled).before back ++ (doc.apply toggled).replacement back ++
        (doc.apply toggled).after back := rfl
  rw [htext, hbefore, hreplacement, hafter, List.append_assoc,
    ← doc.text_eq_append hle]

end

end Document

end RubyBlocks
