import RubyBlocks.Proofs.Layout
import RubyBlocks.Proofs.Visible

/-!
# What unfolding keeps of a text

A block of braces on one line goes onto three. What stands before it stays where it is,
and what stands between its braces becomes a line of its own, apart from the arguments,
which move behind the `do`. The arguments are looked for on the whole line, from its
first bar to its last, and they are taken away from the trimmed body by erasing the
first occurrence of the same characters there. Nothing says that these two are the same
piece of the line.

They are where the list stands in front of the body. Then the trimmed body starts with
the list, and no occurrence is earlier than that (`trim_inside_cases`). With one bar or
none on the line there is no list, and nothing is moved. A bar elsewhere, before the
block or behind the first word of its body, is what the file leaves out.
-/

namespace RubyBlocks

namespace Text

theorem exists_of_head?_dropWhile {text : Text} {c : Char}
    (h : (text.dropWhile isBlank).head? = some c) :
    ∃ blanks rest, text = blanks ++ c :: rest ∧ Blanks blanks := by
  obtain ⟨rest, hrest⟩ := List.head?_eq_some_iff.1 h
  refine ⟨text.takeWhile isBlank, rest, ?_, blanks_takeWhile text⟩
  rw [← hrest, List.takeWhile_append_dropWhile]

/-- The last occurrence of a character. -/
theorem exists_last_of_mem {text : Text} {c : Char} (h : c ∈ text) :
    ∃ front back, text = front ++ c :: back ∧ c ∉ back := by
  obtain ⟨back, front, heq, hback⟩ := List.eq_append_cons_of_mem (List.mem_reverse.2 h)
  refine ⟨front.reverse, back.reverse, ?_, fun hmem => hback (List.mem_reverse.1 hmem)⟩
  rw [← List.reverse_reverse text, heq]
  simp

end Text

namespace Block

/-- What stands on a line before the block that opens on it. -/
def before (block : Block) (line : Text) : Text := line.take block.opening.column

/-- What stands between the braces of a block on one line. -/
def inside (block : Block) (line : Text) : Text :=
  Text.slice line (block.opening.column + 1) block.closing.column

/-- The line of a block that stands on one line, cut at its braces. -/
theorem Encloses.exists_inside {lines : List Text} {cursor : Nat} {block : Block}
    {line : Text} (h : Encloses lines cursor block) (hstyle : block.style = .brace)
    (hone : block.opening.line = block.closing.line)
    (hline : lines[block.opening.line]? = some line) :
    ∃ n, line = block.before line ++
      '{' :: (block.inside line ++ '}' :: List.replicate n '~') := by
  have hlt := h.column_lt hone
  have hstands := h.standsIn_opening hline
  rw [hstyle] at hstands
  obtain ⟨front, c, back, hopen, hlen, -⟩ := Marker.opensAt_of_standsIn hstands
  have hbefore : block.before line = front ++ [c] := by
    rw [before, hopen, ← hlen, List.take_length_add_append]
    rfl
  obtain ⟨m, hm⟩ := Nat.exists_eq_add_of_le hlt
  have hhead : (front ++ [c, '{']).length = block.opening.column + 1 := by
    rw [List.length_append, ← hlen]
    rfl
  have htake : line.take block.closing.column = (front ++ [c, '{']) ++ back.take m := by
    have hcut : line = (front ++ [c, '{']) ++ back := by simpa using hopen
    rw [hcut, hm, Nat.succ_eq_add_one, ← hhead, List.take_length_add_append]
  have hinside : block.inside line = back.take m := by
    rw [inside, Text.slice, htake, List.drop_left' hhead]
  rw [hone] at hline
  obtain ⟨n, hn⟩ := Marker.exists_eq_stripTildes_append line
  rw [h.stripTildes_closing hstyle hline, htake] at hn
  refine ⟨n, ?_⟩
  rw [hbefore, hinside]
  simpa using hn

/-! ## The arguments and the body -/

theorem barred?_of_count_le {text : Text} (h : text.count '|' ≤ 1) :
    barred? text = none := by
  by_cases hbar : '|' ∈ text
  · obtain ⟨front, back, rfl, hfront⟩ := List.eq_append_cons_of_mem hbar
    have hback : '|' ∉ back := by
      rw [List.count_append, List.count_cons_self] at h
      exact List.count_eq_zero.1 (by omega)
    have hpart : Text.dropTrailing (· != '|') ((front ++ '|' :: back).dropWhile (· != '|')) =
        ['|'] := @dropTrailing_bars front ['|'] back hfront hback rfl rfl
    simp only [barred?, hpart]
    rfl
  · exact barred?_of_not_mem hbar

/-- The bars on a line allow for one reading: there are too few of them for arguments,
or the first one is the first thing to be seen between the braces. -/
def BarsInFront (block : Block) (line : Text) : Prop :=
  line.count '|' ≤ 1 ∨ '|' ∉ block.before line ∧
    ((block.inside line).dropWhile Text.isBlank).head? = some '|'

theorem trim_inside_cases {block : Block} {line tildes : Text}
    (hcut : line = block.before line ++ '{' :: (block.inside line ++ '}' :: tildes))
    (htildes : '|' ∉ tildes) (hbars : block.BarsInFront line) :
    barred? line = none ∨ ∃ list rest, barred? line = some list ∧ list ≠ [] ∧
      Text.trim (block.inside line) = list ++ rest := by
  rcases hbars with hfew | ⟨hbefore, hhead⟩
  · exact Or.inl (barred?_of_count_le hfew)
  generalize block.before line = before at hcut hbefore
  generalize block.inside line = inside at hcut hhead
  obtain ⟨blanks, behind, rfl, hblanks⟩ := Text.exists_of_head?_dropWhile hhead
  have hbar : '|' ∉ blanks := fun hmem => absurd (hblanks _ hmem) (by simp)
  by_cases hmore : '|' ∈ behind
  · obtain ⟨params, right, rfl, hright⟩ := Text.exists_last_of_mem hmore
    refine Or.inr ⟨'|' :: (params ++ ['|']), Text.dropTrailing Text.isBlank right, ?_,
      List.cons_ne_nil _ _, ?_⟩
    · have hline : line = (before ++ '{' :: blanks) ++
          '|' :: (params ++ '|' :: (right ++ '}' :: tildes)) := by
        rw [hcut]
        simp
      rw [hline]
      exact barred?_append (by simp [hbefore, hbar]) (by simp [hright, htildes])
    · have htrimmed : Text.Trimmed ('|' :: (params ++ ['|'])) := by
        refine ⟨Text.isBlank_bar, ?_⟩
        rw [← List.cons_append, List.getLast?_concat]
        exact Text.isBlank_bar
      have hlist : '|' :: (params ++ '|' :: right) =
          ('|' :: (params ++ ['|'])) ++ right := by simp
      rw [hlist]
      exact Text.trim_blanks_append right hblanks (List.cons_ne_nil _ _) htrimmed
  · refine Or.inl (barred?_of_count_le ?_)
    rw [hcut]
    simp [List.count_eq_zero.2 hbefore, List.count_eq_zero.2 hbar,
      List.count_eq_zero.2 hmore, List.count_eq_zero.2 htildes]

/-- What is moved and what is left are together what was there. -/
theorem visible_inlineBody {block : Block} {line : Text} {arguments : Option Text}
    (h : arguments = none ∨ ∃ list rest, arguments = some list ∧ list ≠ [] ∧
      Text.trim (block.inside line) = list ++ rest) :
    Text.visible ((arguments.map (' ' :: ·)).getD []) ++
        Text.visible (inlineBody line block arguments) =
      Text.visible (block.inside line) := by
  rcases h with rfl | ⟨list, rest, rfl, hne, htrim⟩
  · exact Text.visible_trim _
  · have hbody : inlineBody line block (some list) = Text.trim rest := by
      rw [inside] at htrim
      simp only [inlineBody, htrim, Text.eraseFirst_append hne]
    rw [hbody, Text.visible_trim, ← Text.visible_trim (block.inside line), htrim,
      Text.visible_append]
    rfl

/-- A block on one line is unfolded without losing any of its text. -/
theorem toggle_brace_inline {lines : List Text} {cursor : Nat} {block : Block}
    {line : Text} (hblock : enclosing lines cursor = .ok block)
    (hstyle : block.style = .brace) (hone : block.opening.line = block.closing.line)
    (hline : lines[block.opening.line]? = some line) (hfeed : '\n' ∉ line)
    (hbars : block.BarsInFront line) :
    ∃ tail body toggled, toggle lines cursor = .ok toggled ∧
      toggled.lines = [block.before line ++ (['d', 'o'] ++ tail),
        Text.indentation line ++ ([' ', ' '] ++ body),
        Text.indentation line ++ ['e', 'n', 'd']] ∧
      Text.visible toggled.lines.flatten = Text.visible (block.before line) ++
        (['d', 'o'] ++ (Text.visible (block.inside line) ++ ['e', 'n', 'd'])) := by
  have hencl := enclosing_eq_ok_iff.1 hblock
  obtain ⟨n, hcut⟩ := hencl.exists_inside hstyle hone hline
  have htildes : '|' ∉ List.replicate n '~' := fun hmem =>
    absurd (List.eq_of_mem_replicate hmem) (by decide)
  have hown : sourceLines lines block = .ok [line] := by
    rcases sourceLines_cases hencl.opening_le_closing hline (hone ▸ hline) with
      ⟨-, hown⟩ | ⟨hmore, -⟩
    · exact hown
    · omega
  have hconverted : converted lines block = toKeywords lines block := by
    rw [converted, hstyle]
  refine ⟨((arguments? line).map (' ' :: ·)).getD [],
    inlineBody line block (arguments? line), _,
    toggle_eq_ok hencl (hconverted.trans (toKeywords_single hown)), ?_, ?_⟩
  · rw [keywordOpening, List.append_assoc, List.append_assoc]
    rfl
  · have hkept := visible_inlineBody (trim_inside_cases hcut htildes hbars)
    have hdo : Text.visible Side.opening.keyword = ['d', 'o'] := by decide
    have hend : Text.visible Side.closing.keyword = ['e', 'n', 'd'] := by decide
    have hinner : Text.visible innerIndent = [] := by decide
    rw [← hkept, arguments?_of_not_mem hfeed]
    simp only [keywordOpening, List.flatten_cons, List.flatten_nil, Text.visible_append,
      Text.visible_indentation, hdo, hend, hinner, before, List.append_assoc, List.nil_append,
      List.append_nil]

/-- The arguments reach up to the last bar, and there is a tilde behind the block. -/
theorem toggle_brace_inline_bars :
    let line : Text :=
      ['\t', 'a', '{', ' ', '|', 'é', '|', ' ', 'y', '|', '|', ' ', 'z', ' ', '}', '~']
    let block : Block := ⟨.brace, ⟨0, 2⟩, ⟨0, 14⟩⟩
    let unfolded : List Text :=
      [['\t', 'a', 'd', 'o', ' ', '|', 'é', '|', ' ', 'y', '|', '|'],
        ['\t', ' ', ' ', 'z'], ['\t', 'e', 'n', 'd']]
    enclosing [line] 0 = .ok block ∧ block.BarsInFront line ∧
      toggle [line] 0 = .ok ⟨unfolded, 0, 0⟩ ∧
      Text.visible unfolded.flatten = Text.visible (block.before line) ++
        (['d', 'o'] ++ (Text.visible (block.inside line) ++ ['e', 'n', 'd'])) := by
  intro line block unfolded
  have hblock : enclosing [line] 0 = .ok block := rfl
  have hbars : block.BarsInFront line := Or.inr (by decide +kernel)
  have hunfolded : toggle [line] 0 = .ok ⟨unfolded, 0, 0⟩ := rfl
  obtain ⟨-, -, toggled, htoggle, -, hvisible⟩ :=
    toggle_brace_inline hblock rfl rfl rfl (by decide) hbars
  obtain rfl := Except.ok.inj (hunfolded.symm.trans htoggle)
  exact ⟨hblock, hbars, hunfolded, hvisible⟩

end Block

end RubyBlocks
