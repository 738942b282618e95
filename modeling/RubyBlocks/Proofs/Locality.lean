import RubyBlocks.Proofs.Failure

/-!
# A block depends on its own lines only

Both searches stop inside the block that they find: the upward one at its first line,
the downward one at its last. What stands above and below is never looked at, and the
line numbers of the answer are counted from wherever the block happens to start. So a
block that was found once is found again on any lines that hold its own lines
somewhere, from the line of it that the cursor was on (`Encloses.moveTo`), and as the
conversions read nothing but those lines and the two columns, the toggle is the same
one (`toggle_of_same_lines`).

The second half turns this round and asks which cursor lines find the block, its own
lines being fixed. One of them does; whether the others do depends on what stands
between. A search from further down must not meet an opening marker on its way up to
the block's first line, and a search from further up must not meet a closing one on
its way down to the last.
-/

namespace RubyBlocks

namespace Block

/-! ## The same lines somewhere else -/

/-- The block on lines that start at another place. -/
def moveTo (block : Block) (start : Nat) : Block :=
  ⟨block.style, ⟨start, block.opening.column⟩,
    ⟨start + (block.closing.line - block.opening.line), block.closing.column⟩⟩

theorem closingStart_add (start start' column i : Nat) :
    closingStart ⟨start, column⟩ (start + i) =
      closingStart ⟨start', column⟩ (start' + i) := by
  simp [closingStart]

section

variable {lines lines' : List Text} {block : Block} {start : Nat}
  (hsame : ∀ i, block.opening.line + i ≤ block.closing.line →
    lines'[start + i]? = lines[block.opening.line + i]?)
include hsame

theorem Encloses.moveTo {cursor : Nat} (h : Encloses lines cursor block) :
    Encloses lines' (start + (cursor - block.opening.line)) (block.moveTo start) := by
  have hle := h.opening_le
  have hge := h.le_closing
  have hclosing : block.opening.line + (block.closing.line - block.opening.line) =
      block.closing.line := by omega
  refine ⟨?_, ?_, ?_, ?_, ?_, ?_⟩
  · show start ≤ start + (cursor - block.opening.line)
    omega
  · show start + (cursor - block.opening.line) ≤
      start + (block.closing.line - block.opening.line)
    omega
  · obtain ⟨first, hfirst, hm⟩ := h.opening_found
    refine ⟨first, ?_, ?_⟩
    · show lines'[start + 0]? = some first
      rw [hsame 0 (by omega), Nat.add_zero, hfirst]
    · obtain ⟨-, hfind⟩ := Marker.onLine?_none_eq_some_iff.1 hm
      exact Marker.onLine?_none_eq_some_iff.2 ⟨rfl, hfind⟩
  · intro j line (hj : start < j) hjc hl
    obtain ⟨i, rfl⟩ := Nat.le.dest (Nat.le_of_lt hj)
    rw [hsame i (by omega)] at hl
    have hnone := h.opening_nearest _ line (by omega) (by omega) hl
    rw [Marker.onLine?_none_eq_none_iff] at hnone ⊢
    exact hnone
  · obtain ⟨last, hlast, hfind⟩ := h.closing_found
    refine ⟨last, ?_, ?_⟩
    · show lines'[start + (block.closing.line - block.opening.line)]? = some last
      rw [hsame _ (by omega), hclosing, hlast]
    · show Marker.find .closing block.style (Marker.stripTildes last)
        (closingStart ⟨start, block.opening.column⟩
          (start + (block.closing.line - block.opening.line))) =
            some block.closing.column
      rw [closingStart_add start block.opening.line, hclosing]
      exact hfind
  · intro j line hj (hjc : j < start + (block.closing.line - block.opening.line)) hl
    obtain ⟨i, rfl⟩ := Nat.le.dest (Nat.le_trans (Nat.le_add_right start _) hj)
    rw [hsame i (by omega)] at hl
    have hnone := h.closing_nearest _ line (by omega) (by omega) hl
    show Marker.find .closing block.style (Marker.stripTildes line)
      (closingStart ⟨start, block.opening.column⟩ (start + i)) = none
    rw [closingStart_add start block.opening.line]
    exact hnone

theorem Encloses.sourceLines_moveTo {cursor : Nat} (h : Encloses lines cursor block) :
    sourceLines lines' (block.moveTo start) = sourceLines lines block := by
  have hle := h.opening_le_closing
  have hmoved := h.moveTo hsame
  rw [sourceLines_eq hmoved.opening_le_closing hmoved.closing_lt,
    sourceLines_eq hle h.closing_lt]
  congr 1
  refine List.ext_getElem? fun i => ?_
  show ((lines'.take (start + (block.closing.line - block.opening.line) + 1)).drop
    start)[i]? = _
  rw [List.getElem?_drop, List.getElem?_drop, List.getElem?_take, List.getElem?_take]
  rcases Nat.lt_or_ge block.closing.line (block.opening.line + i) with hout | hin
  · rw [if_neg (by omega), if_neg (by omega)]
  · rw [if_pos (by omega), if_pos (by omega), hsame i hin]

/-- The conversions read the block's lines and columns, not where it stands. -/
theorem Encloses.converted_moveTo {cursor : Nat} (h : Encloses lines cursor block) :
    converted lines' (block.moveTo start) = converted lines block := by
  have hsource := h.sourceLines_moveTo hsame
  have hbraces : toBraces lines' (block.moveTo start) = toBraces lines block := by
    simp only [toBraces, hsource]
    rfl
  have hkeywords : toKeywords lines' (block.moveTo start) = toKeywords lines block := by
    simp only [toKeywords, hsource]
    rfl
  rw [converted, converted, hbraces, hkeywords]
  rfl

end

/-- A toggle is found again wherever the lines of its block are. -/
theorem toggle_of_same_lines {lines lines' : List Text} {cursor start : Nat}
    {toggled : Toggled} (h : toggle lines cursor = .ok toggled)
    (hsame : ∀ i, toggled.startLine + i ≤ toggled.endLine →
      lines'[start + i]? = lines[toggled.startLine + i]?) :
    toggle lines' (start + (cursor - toggled.startLine)) =
      .ok ⟨toggled.lines, start,
        start + (toggled.endLine - toggled.startLine)⟩ := by
  obtain ⟨block, new, hencl, hnew, rfl⟩ := toggle_eq_ok_iff.1 h
  exact toggle_eq_ok (hencl.moveTo hsame) ((hencl.converted_moveTo hsame).trans hnew)

theorem bounds_of_toggle {lines : List Text} {cursor : Nat} {toggled : Toggled}
    (h : toggle lines cursor = .ok toggled) :
    toggled.startLine ≤ cursor ∧ cursor ≤ toggled.endLine ∧
      toggled.endLine < lines.length := by
  obtain ⟨block, new, hencl, -, rfl⟩ := toggle_eq_ok_iff.1 h
  exact ⟨hencl.opening_le, hencl.le_closing, hencl.closing_lt⟩

/-- Whatever the lines of a block are put between, the toggle is the same one. -/
theorem toggle_surrounded {lines : List Text} {cursor : Nat} {toggled : Toggled}
    (h : toggle lines cursor = .ok toggled) (above below : List Text) :
    toggled.startLine ≤ cursor ∧ cursor ≤ toggled.endLine ∧
      toggled.endLine < lines.length ∧
      toggle (above ++
          ((lines.take (toggled.endLine + 1)).drop toggled.startLine ++ below))
        (above.length + (cursor - toggled.startLine)) =
          .ok ⟨toggled.lines, above.length,
            above.length + (toggled.endLine - toggled.startLine)⟩ := by
  obtain ⟨hle, hge, hlt⟩ := bounds_of_toggle h
  refine ⟨hle, hge, hlt, toggle_of_same_lines h fun i hi => ?_⟩
  have hlen : i < ((lines.take (toggled.endLine + 1)).drop toggled.startLine).length := by
    rw [List.length_drop, List.length_take]
    omega
  rw [List.getElem?_append_right (Nat.le_add_right _ _), Nat.add_sub_cancel_left,
    List.getElem?_append_left hlen, List.getElem?_drop,
    List.getElem?_take_of_lt (by omega)]

/-- From between two lines that open nothing to inside another block. -/
theorem toggle_surrounded_nested :
    let own : List Text := [['f', ' ', 'd', 'o'], [' ', 'y'], ['e', 'n', 'd']]
    let new : List Text := [['f', ' ', '{', ' ', 'y', ' ', '}']]
    let outer : List Text := [['g', ' ', 'd', 'o'], ['h', ' ', '{']]
    toggle (['a'] :: (own ++ [['z']])) 2 = .ok ⟨new, 1, 3⟩ ∧
      toggle (outer ++ (own ++ [['}'], ['e', 'n', 'd']])) 3 = .ok ⟨new, 2, 4⟩ := by
  intro own new outer
  have h : toggle (['a'] :: (own ++ [['z']])) 2 = .ok ⟨new, 1, 3⟩ := by decide +kernel
  exact ⟨h, (toggle_surrounded h outer [['}'], ['e', 'n', 'd']]).2.2.2⟩

/-! ## The same block from every line -/

/-- Nothing opens a block on the lines behind this one's first, and nothing closes it
before its own closing marker does. -/
structure Undivided (lines : List Text) (block : Block) : Prop where
  unopened : ∀ j line style, block.opening.line < j → j ≤ block.closing.line →
    lines[j]? = some line → ¬ Marker.Carries .opening style line
  first_unclosed : ∀ line k, lines[block.opening.line]? = some line →
    block.opening.column < k →
      ¬ Marker.StandsIn .closing block.style (Marker.stripTildes line) k
  unclosed : ∀ j line, block.opening.line < j → j < block.closing.line →
    lines[j]? = some line → ¬ Marker.Carries .closing block.style line

/-- A block is found from each of its lines exactly when it is undivided. -/
theorem enclosing_every_line_iff {lines : List Text} {cursor : Nat} {block : Block}
    (h : enclosing lines cursor = .ok block)
    (hlong : block.opening.line < block.closing.line) :
    (∀ line, block.opening.line ≤ line → line ≤ block.closing.line →
      enclosing lines line = .ok block) ↔ Undivided lines block := by
  have hencl := enclosing_eq_ok_iff.1 h
  constructor
  · -- The first line sees all closing markers, and the last line all opening ones.
    intro hall
    have hfirst := enclosing_eq_ok_iff.1
      (hall block.opening.line (Nat.le_refl _) (Nat.le_of_lt hlong))
    have hlast := enclosing_eq_ok_iff.1
      (hall block.closing.line (Nat.le_of_lt hlong) (Nat.le_refl _))
    refine ⟨?_, ?_, ?_⟩
    · intro j line style hj hjc hl
      exact Marker.onLine?_none_eq_none_iff.1
        (hlast.opening_nearest j line hj hjc hl) style
    · intro line k hl hk hs
      have hnone := hfirst.closing_nearest _ line (Nat.le_refl _) hlong hl
      have hle := (find_closingStart_eq_none_iff.1 hnone k hs).2
      omega
    · rintro j line hj hjc hl ⟨k, hs⟩
      have hnone := hfirst.closing_nearest j line (Nat.le_of_lt hj) hjc hl
      have heq := (find_closingStart_eq_none_iff.1 hnone k hs).1
      omega
  · intro hundivided c hle hge
    refine enclosing_eq_ok_iff.2
      ⟨hle, hge, hencl.opening_found, ?_, hencl.closing_found, ?_⟩
    · intro j line hj hjc hl
      refine Marker.onLine?_none_eq_none_iff.2 fun style => ?_
      exact hundivided.unopened j line style hj (by omega) hl
    · intro j line hj hjc hl
      refine find_closingStart_eq_none_iff.2 fun k hs => ?_
      rcases Nat.lt_or_eq_of_le (Nat.le_trans hle hj) with hin | rfl
      · exact absurd ⟨k, hs⟩ (hundivided.unclosed j line hin hjc hl)
      · refine ⟨rfl, Nat.le_of_not_lt fun hk => ?_⟩
        exact hundivided.first_unclosed line k hl hk hs

/-- A closing marker of the other style divides nothing, an opening one does. -/
theorem enclosing_every_line_hash :
    let block : Block := ⟨.keyword, ⟨0, 2⟩, ⟨2, 0⟩⟩
    let plain : List Text := [['f', ' ', 'd', 'o'], ['x', ' ', '}'], ['e', 'n', 'd']]
    let hash : List Text := [['f', ' ', 'd', 'o'], ['x', ' ', '{'], ['e', 'n', 'd']]
    Undivided plain block ∧ enclosing hash 0 = .ok block ∧
      ¬ ∀ line, 0 ≤ line → line ≤ 2 → enclosing hash line = .ok block := by
  intro block plain hash
  have hplain : ∀ line ≤ 2, enclosing plain line = .ok block := by decide +kernel
  have hhash : enclosing hash 0 = .ok block := by decide +kernel
  refine ⟨?_, hhash, fun hall => ?_⟩
  · exact (enclosing_every_line_iff (hplain 1 (by decide)) (by decide)).1
      fun line _ hle => hplain line hle
  · have hundivided := (enclosing_every_line_iff hhash (by decide)).1 hall
    exact hundivided.unopened 1 _ .brace (by decide) (by decide) rfl ⟨2, rfl⟩

end Block

end RubyBlocks
