import RubyBlocks.Block.Toggle
import RubyBlocks.Proofs.Search
import RubyBlocks.Proofs.Spacing

/-!
# What a conversion writes

A conversion touches the first and the last line of a block and, when it folds or
unfolds, how the lines are laid out. This file says what each of them answers on a
block whose lines are known, so that later files can work with the answer and leave
the conversions closed.

For a block of several lines both directions have the same shape. The lines are
`first :: (middle ++ [last])`, the two ends are rewritten on their own, and `middle`
is carried through.
-/

namespace RubyBlocks

namespace Block

/-! ## The lines of a block -/

theorem sourceLines_eq {lines : List Text} {block : Block}
    (hle : block.opening.line ≤ block.closing.line)
    (hlt : block.closing.line < lines.length) :
    sourceLines lines block =
      .ok ((lines.take (block.closing.line + 1)).drop block.opening.line) := by
  rw [sourceLines, if_neg (by omega), if_neg (by omega)]

theorem eq_of_sourceLines {lines own : List Text} {block : Block}
    (h : sourceLines lines block = .ok own) :
    (lines.take (block.closing.line + 1)).drop block.opening.line = own ∧
      block.closing.line + 1 = block.opening.line + own.length := by
  rw [sourceLines] at h
  split at h <;> rename_i hlt
  · cases h
  · split at h <;> rename_i hle
    · cases h
    · injection h with h
      refine ⟨h, ?_⟩
      rw [← h, List.length_drop, List.length_take]
      omega

theorem getElem?_of_sourceLines {lines own : List Text} {block : Block}
    (h : sourceLines lines block = .ok own) {i : Nat} (hi : i < own.length) :
    lines[block.opening.line + i]? = own[i]? := by
  obtain ⟨hown, hlen⟩ := eq_of_sourceLines h
  rw [← hown, List.getElem?_drop, List.getElem?_take_of_lt (by omega)]

theorem getElem?_closing_of_sourceLines {lines init : List Text} {block : Block}
    {last : Text} (h : sourceLines lines block = .ok (init ++ [last])) :
    lines[block.closing.line]? = some last := by
  have hlen := (eq_of_sourceLines h).2
  rw [List.length_append, List.length_singleton] at hlen
  have hget := getElem?_of_sourceLines h (i := init.length) (by simp)
  rw [List.getElem?_append_right (Nat.le_refl _), Nat.sub_self,
    List.getElem?_cons_zero] at hget
  rw [← hget]
  exact congrArg (lines[·]?) (by omega)

/-- A block is on one line, or it has a first line and another last one. -/
theorem sourceLines_cases {lines : List Text} {block : Block} {first last : Text}
    (hle : block.opening.line ≤ block.closing.line)
    (hfirst : lines[block.opening.line]? = some first)
    (hlast : lines[block.closing.line]? = some last) :
    (block.opening.line = block.closing.line ∧
        sourceLines lines block = .ok [first]) ∨
      (block.opening.line < block.closing.line ∧
        ∃ middle, sourceLines lines block = .ok (first :: (middle ++ [last]))) := by
  have hlt : block.closing.line < lines.length :=
    (List.getElem?_eq_some_iff.1 hlast).1
  have hlen : (lines.take block.closing.line).length = block.closing.line :=
    List.length_take_of_le (Nat.le_of_lt hlt)
  rw [sourceLines_eq hle hlt, List.take_add_one, hlast, Option.toList_some,
    List.drop_append_of_le_length (by omega)]
  rcases Nat.lt_or_eq_of_le hle with h | h
  · have hget : (lines.take block.closing.line)[block.opening.line]? = some first :=
      (List.getElem?_take_of_lt h).trans hfirst
    obtain ⟨hlt', hget⟩ := List.getElem?_eq_some_iff.1 hget
    refine Or.inr ⟨h, (lines.take block.closing.line).drop
      (block.opening.line + 1), ?_⟩
    rw [List.drop_eq_getElem_cons hlt', hget, List.cons_append]
  · rw [h, hlast] at hfirst
    injection hfirst with hfirst
    refine Or.inl ⟨h, ?_⟩
    rw [List.drop_eq_nil_of_le (by omega), hfirst, List.nil_append]

theorem mem_take_of_sourceLines {lines middle : List Text} {block : Block}
    {first last line : Text}
    (h : sourceLines lines block = .ok (first :: (middle ++ [last])))
    (hline : line ∈ middle) : line ∈ lines.take block.closing.line := by
  obtain ⟨i, hi⟩ := List.mem_iff_getElem?.1 hline
  have hlt : i < middle.length := (List.getElem?_eq_some_iff.1 hi).1
  have hlen := (eq_of_sourceLines h).2
  rw [List.length_cons, List.length_append, List.length_singleton] at hlen
  have hget := getElem?_of_sourceLines h (i := i + 1) (by simp; omega)
  rw [List.getElem?_cons_succ, List.getElem?_append_left hlt, hi] at hget
  rw [← List.getElem?_take_of_lt (j := block.closing.line) (by omega)] at hget
  exact List.mem_of_getElem? hget

theorem sourceLines_append {before own after : List Text} {block : Block}
    (hopening : block.opening.line = before.length)
    (hclosing : block.closing.line + 1 = before.length + own.length)
    (hle : block.opening.line ≤ block.closing.line) :
    sourceLines (before ++ (own ++ after)) block = .ok own := by
  have hlt : block.closing.line < (before ++ (own ++ after)).length := by
    rw [List.length_append, List.length_append]; omega
  rw [sourceLines_eq hle hlt, hclosing, hopening, ← List.length_append,
    ← List.append_assoc, List.take_left, List.drop_left]

theorem toggle_eq_ok {lines new : List Text} {cursor : Nat} {block : Block}
    (hblock : Encloses lines cursor block)
    (hnew : converted lines block = .ok new) :
    toggle lines cursor = .ok ⟨new, block.opening.line, block.closing.line⟩ := by
  rw [toggle, enclosing_eq_ok_iff.2 hblock]
  show (converted lines block >>= _) = _
  rw [hnew]
  rfl

theorem toggle_eq_ok_iff {lines : List Text} {cursor : Nat} {toggled : Toggled} :
    toggle lines cursor = .ok toggled ↔
      ∃ block new, Encloses lines cursor block ∧ converted lines block = .ok new ∧
        toggled = ⟨new, block.opening.line, block.closing.line⟩ := by
  constructor
  · intro h
    cases hblock : enclosing lines cursor with
    | error e => simp [toggle, hblock, bind, Except.bind] at h
    | ok block =>
        cases hnew : converted lines block with
        | error e => simp [toggle, hblock, hnew, bind, Except.bind] at h
        | ok new =>
            have hencl := enclosing_eq_ok_iff.1 hblock
            rw [toggle_eq_ok hencl hnew] at h
            injection h with h
            exact ⟨block, new, hencl, hnew, h.symm⟩
  · rintro ⟨block, new, hencl, hnew, rfl⟩
    exact toggle_eq_ok hencl hnew

theorem modify_last {α : Type} (f : α → α) (init : List α) (last : α) :
    (init ++ [last]).modify ((init ++ [last]).length - 1) f = init ++ [f last] := by
  rw [List.length_append, List.length_singleton, Nat.add_sub_cancel]
  induction init with
  | nil => rfl
  | cons a init ih =>
      rw [List.cons_append, List.length_cons, List.modify_succ_cons, ih,
        List.cons_append]

/-! ## To braces -/

theorem not_mem_keyword {c : Char} (hc : Text.isBlank c = true) (side : Side) :
    c ∉ side.keyword := by
  intro hmem
  have hword := Marker.isWord_of_mem_keyword hmem
  rw [Text.isWord_of_isBlank hc] at hword
  exact absurd hword (by simp)

theorem replaceKeyword_append {side : Side} {front back : Text}
    (replacement : Text)
    (h : Marker.StandsIn side .keyword (front ++ (side.keyword ++ back))
      front.length) :
    replaceKeyword side front.length replacement
      (front ++ (side.keyword ++ back)) = front ++ (replacement ++ back) := by
  rw [replaceKeyword, Marker.find_keyword_of_standsIn h]
  simp only []
  rw [List.take_left, ← List.append_assoc front, ← List.length_append,
    List.drop_left, List.append_assoc]

theorem bracesForKeywords_eq {block : Block} {first last : Text}
    {middle : List Text} :
    bracesForKeywords block (first :: (middle ++ [last])) =
      replaceKeyword .opening block.opening.column ['{'] first ::
        (middle ++ [replaceKeyword .closing block.closing.column ['}'] last]) := by
  rw [bracesForKeywords, ← List.cons_append, modify_last, List.cons_append,
    List.modify_zero_cons]

/-- A long block keeps its lines, and a short one becomes one line. -/
theorem toBraces_eq {lines middle : List Text} {block : Block} {first last : Text}
    (hsource : sourceLines lines block = .ok (first :: (middle ++ [last]))) :
    toBraces lines block = .ok
      (if 2 ≤ middle.length then
        replaceKeyword .opening block.opening.column ['{'] first ::
          (middle ++ [replaceKeyword .closing block.closing.column ['}'] last])
      else
        [fold (replaceKeyword .opening block.opening.column ['{'] first ::
          (middle ++
            [replaceKeyword .closing block.closing.column ['}'] last]))]) := by
  have hlong : (2 ≤ middle.length) = (foldLimit < middle.length + 1 + 1) := by
    rw [foldLimit, eq_iff_iff]; omega
  simp only [toBraces, hsource, bind, Except.bind, pure, Except.pure,
    bracesForKeywords_eq, List.length_cons, List.length_append, List.length_nil,
    hlong]

/-! ## To keywords -/

theorem mem_intercalate {sep piece : Text} {c : Char} (hc : c ∈ piece) :
    ∀ {pieces : List Text}, piece ∈ pieces → c ∈ List.intercalate sep pieces
  | [], h => absurd h List.not_mem_nil
  | [only], h => by
      rw [List.intercalate_singleton, ← List.mem_singleton.1 h]
      exact hc
  | first :: next :: rest, h => by
      rw [List.intercalate_cons_cons, List.mem_append]
      rcases List.mem_cons.1 h with rfl | h
      · exact Or.inl (List.mem_append_left _ hc)
      · exact Or.inr (mem_intercalate hc h)

/-- What stands behind the delimiter that opens a block: nothing, or a space and
the block's arguments between bars. -/
def argumentTail : Option Text → Text
  | none => []
  | some params => ' ' :: '|' :: (params ++ ['|'])

theorem exists_opened_eq (front : Text) (params : Option Text) :
    ∃ init c, front ++ '{' :: argumentTail params = init ++ [c] ∧
      (c = '{' ∨ c = '|') := by
  cases params with
  | none => exact ⟨front, '{', rfl, Or.inl rfl⟩
  | some list =>
      refine ⟨front ++ '{' :: ' ' :: '|' :: list, '|', ?_, Or.inr rfl⟩
      simp [argumentTail]

theorem forall_ne_bar {text : Text} (h : '|' ∉ text) :
    ∀ c ∈ text, (c != '|') = true := by
  intro c hc
  simpa using fun heq : c = '|' => h (heq ▸ hc)

theorem barred?_of_not_mem {text : Text} (h : '|' ∉ text) : barred? text = none := by
  have hdrop : text.dropWhile (· != '|') = [] :=
    List.dropWhile_eq_nil_iff.2 (forall_ne_bar h)
  simp only [barred?, hdrop]
  rfl

/-- Bars are looked for from both ends, and what is around the outer two is dropped. -/
theorem dropTrailing_bars {left list right : Text} (hl : '|' ∉ left) (hr : '|' ∉ right)
    (hhead : list.head? = some '|') (hlast : list.getLast? = some '|') :
    Text.dropTrailing (· != '|') ((left ++ (list ++ right)).dropWhile (· != '|')) =
      list := by
  have hstart : (list ++ right).head?.any (· != '|') = false := by
    rw [List.head?_append, hhead]
    rfl
  rw [List.dropWhile_append_of_pos (forall_ne_bar hl), Text.dropWhile_of_head hstart]
  exact Text.dropTrailing_append (forall_ne_bar hr) (by rw [hlast]; rfl)

theorem barred?_append {left params right : Text} (hl : '|' ∉ left)
    (hr : '|' ∉ right) :
    barred? (left ++ '|' :: (params ++ '|' :: right)) =
      some ('|' :: (params ++ ['|'])) := by
  have hcut : '|' :: (params ++ '|' :: right) =
      ('|' :: (params ++ ['|'])) ++ right := by simp
  have hlast : ('|' :: (params ++ ['|'])).getLast? = some '|' := by
    rw [← List.cons_append, List.getLast?_concat]
  simp only [barred?, hcut, dropTrailing_bars hl hr rfl hlast]
  rw [if_pos (by simp)]

theorem mem_of_mem_splitOn {line piece : Text} {c d : Char}
    (hpiece : piece ∈ line.splitOn d) (hc : c ∈ piece) : c ∈ line := by
  have hjoin : List.intercalate [d] (line.splitOn d) = line :=
    List.intercalate_splitOn d
  rw [← hjoin]
  exact mem_intercalate hc hpiece

/-- Without bars there are no arguments. -/
theorem arguments?_eq_none {line : Text} (h : '|' ∉ line) :
    arguments? line = none :=
  List.findSome?_eq_none_iff.2 fun _ hpiece =>
    barred?_of_not_mem fun hbar => h (mem_of_mem_splitOn hpiece hbar)

theorem arguments?_of_not_mem {line : Text} (h : '\n' ∉ line) :
    arguments? line = barred? line := by
  rw [arguments?, List.splitOn_eq_singleton h]
  cases hb : barred? line <;> simp [hb]

/-- The arguments are found again behind the brace. -/
theorem arguments?_append {left right : Text} {params : Option Text}
    (hfeed : '\n' ∉ left ++ (argumentTail params ++ right))
    (hl : '|' ∉ left) (hr : '|' ∉ right) :
    arguments? (left ++ (argumentTail params ++ right)) =
      params.map fun params => '|' :: (params ++ ['|']) := by
  rw [arguments?_of_not_mem hfeed]
  cases params with
  | none =>
      refine barred?_of_not_mem ?_
      simp [argumentTail, hl, hr]
  | some params =>
      have hcut : left ++ (argumentTail (some params) ++ right) =
          (left ++ [' ']) ++ '|' :: (params ++ '|' :: right) := by
        simp [argumentTail]
      rw [hcut, barred?_append (by simpa using hl) hr]
      rfl

theorem keywordOpening_eq {front back : Text} {params : Option Text} :
    keywordOpening (front ++ back) front.length
      (params.map fun params => '|' :: (params ++ ['|'])) =
        front ++ (Side.opening.keyword ++ argumentTail params) := by
  rw [keywordOpening, List.take_left, List.append_assoc]
  cases params <;> rfl

theorem toKeywords_single {lines : List Text} {block : Block} {line : Text}
    (hsource : sourceLines lines block = .ok [line]) :
    toKeywords lines block = .ok
      [keywordOpening line block.opening.column (arguments? line),
        Text.indentation line ++ innerIndent ++
          inlineBody line block (arguments? line),
        Text.indentation line ++ Side.closing.keyword] := by
  simp only [toKeywords, hsource, bind, Except.bind, pure, Except.pure]

theorem toKeywords_long {lines middle : List Text} {block : Block}
    {first last : Text}
    (hsource : sourceLines lines block = .ok (first :: (middle ++ [last]))) :
    toKeywords lines block = .ok
      (keywordOpening first block.opening.column (arguments? first) ::
        (middle ++ [last.take block.closing.column ++ Side.closing.keyword])) := by
  cases middle with
  | nil => simp only [toKeywords, hsource, bind, Except.bind]; rfl
  | cons line middle =>
      simp only [toKeywords, hsource, bind, Except.bind, List.cons_append]
      rw [List.modify_zero_cons, ← List.cons_append, ← List.cons_append, modify_last,
        List.cons_append, List.cons_append]
      rfl

/-! ## Either way

A block that was found is converted in one of four ways, according to its style and
to how many lines it has. -/

/-- How the lines of a block are converted. -/
inductive Converts (block : Block) : List Text → List Text → Prop where
  | folded {own : List Text} (style : block.style = .keyword)
      (short : own.length ≤ foldLimit) :
      Converts block own [fold (bracesForKeywords block own)]
  | swapped {first last : Text} {middle : List Text} (style : block.style = .keyword)
      (long : 2 ≤ middle.length) :
      Converts block (first :: (middle ++ [last]))
        (replaceKeyword .opening block.opening.column ['{'] first ::
          (middle ++ [replaceKeyword .closing block.closing.column ['}'] last]))
  | unfolded {line : Text} (style : block.style = .brace) :
      Converts block [line]
        [keywordOpening line block.opening.column (arguments? line),
          Text.indentation line ++ innerIndent ++
            inlineBody line block (arguments? line),
          Text.indentation line ++ Side.closing.keyword]
  | cut {first last : Text} {middle : List Text} (style : block.style = .brace) :
      Converts block (first :: (middle ++ [last]))
        (keywordOpening first block.opening.column (arguments? first) ::
          (middle ++ [last.take block.closing.column ++ Side.closing.keyword]))

theorem toBraces_short {lines own : List Text} {block : Block}
    (hown : sourceLines lines block = .ok own) (hshort : own.length ≤ foldLimit) :
    toBraces lines block = .ok [fold (bracesForKeywords block own)] := by
  have hlen : (bracesForKeywords block own).length = own.length := by
    rw [bracesForKeywords, List.length_modify, List.length_modify]
  simp only [toBraces, hown, bind, Except.bind, pure, Except.pure]
  rw [if_neg (by omega)]

/-- The conversion of a block that was found is one of the four. -/
theorem Encloses.exists_converts {lines : List Text} {cursor : Nat} {block : Block}
    (h : Encloses lines cursor block) :
    ∃ own new, sourceLines lines block = .ok own ∧
      converted lines block = .ok new ∧ Converts block own new := by
  obtain ⟨first, hfirst, -⟩ := h.opening_found
  obtain ⟨last, hlast, -⟩ := h.closing_found
  rw [converted]
  cases hstyle : block.style with
  | keyword =>
      rcases sourceLines_cases h.opening_le_closing hfirst hlast with
        ⟨-, hown⟩ | ⟨-, middle, hown⟩
      · have hshort : [first].length ≤ foldLimit := by simp [foldLimit]
        exact ⟨_, _, hown, toBraces_short hown hshort, .folded hstyle hshort⟩
      · by_cases hlong : 2 ≤ middle.length
        · have hnew := toBraces_eq hown
          rw [if_pos hlong] at hnew
          exact ⟨_, _, hown, hnew, .swapped hstyle hlong⟩
        · have hshort : (first :: (middle ++ [last])).length ≤ foldLimit := by
            simp [foldLimit]
            omega
          exact ⟨_, _, hown, toBraces_short hown hshort, .folded hstyle hshort⟩
  | brace =>
      rcases sourceLines_cases h.opening_le_closing hfirst hlast with
        ⟨-, hown⟩ | ⟨-, middle, hown⟩
      · exact ⟨_, _, hown, toKeywords_single hown, .unfolded hstyle⟩
      · exact ⟨_, _, hown, toKeywords_long hown, .cut hstyle⟩

theorem exists_of_toggle {lines : List Text} {cursor : Nat} {toggled : Toggled}
    (h : toggle lines cursor = .ok toggled) :
    ∃ block own new, Encloses lines cursor block ∧
      sourceLines lines block = .ok own ∧ Converts block own new ∧
      toggled = ⟨new, block.opening.line, block.closing.line⟩ := by
  obtain ⟨block, new, hencl, hnew, rfl⟩ := toggle_eq_ok_iff.1 h
  obtain ⟨own, new', hown, hnew', hconv⟩ := hencl.exists_converts
  rw [hnew] at hnew'
  injection hnew' with hnew'
  subst hnew'
  exact ⟨block, own, new, hencl, hown, hconv, rfl⟩

end Block

end RubyBlocks
