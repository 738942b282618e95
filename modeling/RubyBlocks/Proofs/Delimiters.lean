import RubyBlocks.Proofs.Search

/-!
# What stands at the two ends of a block

A search reads every line without the tildes at its end and answers columns; a
conversion cuts the line as it is at these columns. This file says what it finds
there. The tildes are harmless for three of the four delimiters, since they belong
to no word and are no brace, and a closing brace, which has to be the last character
that a search sees, is the last but for them.

On a line that holds both ends the closing one is searched behind the opening one.
For braces that is all there is to know. For keywords it is more than it seems: two
whole words neither overlap nor touch, so an `end` behind a `do` is at least three
columns away (`StandsIn.apart`).
-/

namespace RubyBlocks

namespace Marker

/-- The word starts at this column of the line and runs into no other word. -/
def WholeWordAt (word line : Text) (column : Nat) : Prop :=
  ∃ front back, line = front ++ (word ++ back) ∧ front.length = column ∧
    front.getLast?.any Text.isWord = false ∧ back.head?.any Text.isWord = false

/-- What opens a block of this style stands at this column of the line. -/
def OpensAt (style : Style) (line : Text) (column : Nat) : Prop :=
  match style with
  | .keyword => WholeWordAt ['d', 'o'] line column
  | .brace => ∃ front c back, line = front ++ c :: '{' :: back ∧
      front.length + 1 = column ∧ c ≠ '#'

/-- What closes a block of this style stands at this column of the line. -/
def ClosesAt (style : Style) (line : Text) (column : Nat) : Prop :=
  match style with
  | .keyword => WholeWordAt ['e', 'n', 'd'] line column
  | .brace => ∃ front n, line = front ++ '}' :: List.replicate n '~' ∧
      front.length = column

/-! ## From a stripped line to the line -/

theorem wholeWordAt_of_standsIn {side : Side} {line : Text} {k : Nat}
    (h : StandsIn side .keyword (stripTildes line) k) :
    WholeWordAt side.keyword line k := by
  obtain ⟨n, hn⟩ := exists_eq_stripTildes_append line
  rw [← standsIn_keyword_replicate n, ← hn] at h
  exact standsIn_keyword_iff.1 h

theorem exists_of_standsIn_opening_brace {line : Text} {k : Nat}
    (h : StandsIn .opening .brace line k) :
    ∃ front c back, line = front ++ c :: '{' :: back ∧ front.length + 1 = k ∧
      c ≠ '#' := by
  have hlt := h.lt_length
  have hcut := List.take_append_drop k line
  simp only [StandsIn, standsAt, Bool.and_eq_true, beq_iff_eq] at h
  obtain ⟨hbrace, hbefore⟩ := h
  obtain ⟨back, hback⟩ := List.head?_eq_some_iff.1 hbrace
  rcases List.eq_nil_or_concat (line.take k) with hnil | ⟨front, c, hfront⟩
  · rw [hnil] at hbefore
    exact absurd hbefore (by simp)
  · rw [List.concat_eq_append] at hfront
    refine ⟨front, c, back, ?_, ?_, ?_⟩
    · rw [← hcut, hfront, hback, List.append_assoc]
      rfl
    · have hlen := congrArg List.length hfront
      rw [List.length_take_of_le (Nat.le_of_lt hlt), List.length_append,
        List.length_singleton] at hlen
      exact hlen.symm
    · rw [hfront, List.getLast?_concat] at hbefore
      simpa using hbefore

theorem opensAt_of_standsIn {style : Style} {line : Text} {k : Nat}
    (h : StandsIn .opening style (stripTildes line) k) : OpensAt style line k := by
  cases style with
  | keyword => exact wholeWordAt_of_standsIn h
  | brace =>
      obtain ⟨n, hn⟩ := exists_eq_stripTildes_append line
      obtain ⟨front, c, back, hcut, hlen, hc⟩ := exists_of_standsIn_opening_brace h
      refine ⟨front, c, back ++ List.replicate n '~', ?_, hlen, hc⟩
      rw [hn, hcut, List.append_assoc]
      rfl

theorem closesAt_of_standsIn {style : Style} {line : Text} {k : Nat}
    (h : StandsIn .closing style (stripTildes line) k) : ClosesAt style line k := by
  cases style with
  | keyword => exact wholeWordAt_of_standsIn h
  | brace =>
      obtain ⟨n, hn⟩ := exists_eq_stripTildes_append line
      have hlt := h.lt_length
      have hcut := List.take_append_drop k (stripTildes line)
      rw [standsIn_closing_brace_iff.1 h] at hcut
      refine ⟨(stripTildes line).take k, n, ?_,
        List.length_take_of_le (Nat.le_of_lt hlt)⟩
      rw [← List.singleton_append, ← List.append_assoc, hcut, ← hn]

/-- Behind a whole word the next one starts at least one column further on. The
character before it is none of a word, and all of the first word's are. -/
theorem StandsIn.apart {side side' : Side} {line : Text} {k j : Nat}
    (hk : StandsIn side .keyword line k) (hj : StandsIn side' .keyword line j)
    (hlt : k < j) : k + side.keyword.length < j := by
  obtain ⟨front, back, rfl, rfl, -, -⟩ := standsIn_keyword_iff.1 hk
  rcases Nat.lt_or_ge (front.length + side.keyword.length) j with h | hle
  · exact h
  · obtain ⟨i, rfl⟩ : ∃ i, j = front.length + (i + 1) :=
      ⟨j - front.length - 1, by omega⟩
    have hi : i + 1 ≤ side.keyword.length := by omega
    have htake : (front ++ (side.keyword ++ back)).take (front.length + (i + 1)) =
        front ++ side.keyword.take (i + 1) := by
      rw [List.take_length_add_append, List.take_append_of_le_length hi]
    have hne : side.keyword.take (i + 1) ≠ [] := by
      intro hnil
      have hlen := congrArg List.length hnil
      rw [List.length_take_of_le hi, List.length_nil] at hlen
      omega
    have hbefore : (front ++ side.keyword.take (i + 1)).getLast? =
        some ((side.keyword.take (i + 1)).getLast hne) := by
      rw [List.getLast?_append, List.getLast?_eq_some_getLast hne, Option.some_or]
    have hmem : (side.keyword.take (i + 1)).getLast hne ∈ side.keyword :=
      List.mem_of_mem_take (List.getLast_mem hne)
    simp only [StandsIn, standsAt, Bool.and_eq_true, Bool.not_eq_true'] at hj
    have hword := hj.1.2
    rw [htake, hbefore, Option.any_some, isWord_of_mem_keyword hmem] at hword
    exact absurd hword (by simp)

end Marker

namespace Block

/-! ## The block that a search finds -/

/-- The block lies around the line, its ends are in order, and both its delimiters
are there. -/
structure Located (lines : List Text) (cursor : Nat) (block : Block) : Prop where
  opening_le : block.opening.line ≤ cursor
  le_closing : cursor ≤ block.closing.line
  closing_lt : block.closing.line < lines.length
  column_lt : block.opening.line = block.closing.line →
    block.opening.column < block.closing.column
  keyword_apart : block.opening.line = block.closing.line →
    block.style = .keyword → block.opening.column + 3 ≤ block.closing.column
  opens : ∃ line, lines[block.opening.line]? = some line ∧
    Marker.OpensAt block.style line block.opening.column
  closes : ∃ line, lines[block.closing.line]? = some line ∧
    Marker.ClosesAt block.style line block.closing.column

namespace Encloses

variable {lines : List Text} {cursor : Nat} {block : Block}

theorem standsIn_opening (h : Encloses lines cursor block) {line : Text}
    (hl : lines[block.opening.line]? = some line) :
    Marker.StandsIn .opening block.style (Marker.stripTildes line)
      block.opening.column :=
  (Marker.find_eq_some_iff.1 (h.find_opening hl).1).2.1

theorem standsIn_closing (h : Encloses lines cursor block) {line : Text}
    (hl : lines[block.closing.line]? = some line) :
    Marker.StandsIn .closing block.style (Marker.stripTildes line)
      block.closing.column :=
  (Marker.find_eq_some_iff.1 (h.find_closing hl)).2.1

theorem closing_column_lt (h : Encloses lines cursor block) {line : Text}
    (hl : lines[block.closing.line]? = some line) :
    block.closing.column < line.length := by
  have hlt := (h.standsIn_closing hl).lt_length
  obtain ⟨n, hn⟩ := Marker.exists_eq_stripTildes_append line
  rw [hn, List.length_append]
  omega

theorem column_lt (h : Encloses lines cursor block)
    (heq : block.opening.line = block.closing.line) :
    block.opening.column < block.closing.column := by
  obtain ⟨line, hl, hfind⟩ := h.closing_found
  rw [closingStart, if_pos heq] at hfind
  have hle := (Marker.find_eq_some_iff.1 hfind).1
  rw [Marker.firstColumn] at hle
  · exact hle
  · simp

end Encloses

theorem enclosing_located {lines : List Text} {cursor : Nat} {block : Block}
    (hblock : enclosing lines cursor = .ok block) : Located lines cursor block := by
  have h := enclosing_eq_ok_iff.1 hblock
  obtain ⟨first, hfirst, -⟩ := h.opening_found
  obtain ⟨last, hlast, -⟩ := h.closing_found
  have hopens := h.standsIn_opening hfirst
  have hcloses := h.standsIn_closing hlast
  refine ⟨h.opening_le, h.le_closing, h.closing_lt, h.column_lt, ?_,
    ⟨first, hfirst, Marker.opensAt_of_standsIn hopens⟩,
    ⟨last, hlast, Marker.closesAt_of_standsIn hcloses⟩⟩
  intro heq hstyle
  rw [heq, hlast] at hfirst
  injection hfirst with hfirst
  subst hfirst
  rw [hstyle] at hopens hcloses
  exact hopens.apart hcloses (h.column_lt heq)

/-- An interpolation is passed over, and the tildes are left out of account. -/
theorem enclosing_located_tildes :
    let lines : List Text := [['a', '#', '{', 'b', '}', ' ', '{', '~'], ['}', '~', '~']]
    let block : Block := ⟨.brace, ⟨0, 6⟩, ⟨1, 0⟩⟩
    enclosing lines 1 = .ok block ∧ Located lines 1 block := by
  intro lines block
  have hblock : enclosing lines 1 = .ok block := rfl
  exact ⟨hblock, enclosing_located hblock⟩

end Block

end RubyBlocks
