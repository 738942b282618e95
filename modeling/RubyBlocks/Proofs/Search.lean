import RubyBlocks.Block.Basic
import RubyBlocks.Proofs.Markers

/-!
# What the two searches find

A block is found by a search upward and one downward, and each stops at the first
line that has something for it. Both searches are described by where they stopped
and by the lines they passed over, and together they make `Encloses`: six facts
about a block, none of which mentions the order in which the lines were read.
`enclosing_eq_ok_iff` says that these six facts are the search. Its left-to-right
half takes a block apart that was found; its right-to-left half finds a block on
lines that are known.

One thing gets simpler on the way. The downward search starts behind the opening
marker only when the cursor is on the block's first line. But the block's first
line is never below the cursor and the search never goes above it, so a line is
searched from behind the opening marker exactly when it is the block's first line,
wherever the cursor is.
-/

namespace RubyBlocks

namespace Marker

/-! ## One line -/

theorem onLine?_some {side : Side} {style : Style} {index : Nat} {line : Text}
    {start : Nat} :
    onLine? side (some style) index line start =
      (find side style (stripTildes line) start).map
        fun column => ⟨⟨index, column⟩, style⟩ := by
  cases style <;> simp [onLine?, Style.searchOrder, allows]

/-- The keyword is asked for first. -/
theorem onLine?_none {side : Side} {index : Nat} {line : Text} {start : Nat} :
    onLine? side none index line start =
      ((find side .keyword (stripTildes line) start).map
          fun column => ⟨⟨index, column⟩, .keyword⟩).or
        ((find side .brace (stripTildes line) start).map
          fun column => ⟨⟨index, column⟩, .brace⟩) := by
  have hall : Style.searchOrder.filter (allows none) = [.keyword, .brace] := rfl
  rw [onLine?, hall]
  cases hk : find side .keyword (stripTildes line) start <;> simp [hk]

/-- Whatever a line answers stands on it, and nothing stands before it. -/
theorem onLine?_none_eq_some_iff {side : Side} {index : Nat} {line : Text}
    {start : Nat} {marker : Marker} :
    onLine? side none index line start = some marker ↔
      marker.position.line = index ∧
        find side marker.style (stripTildes line) start =
          some marker.position.column ∧
        (marker.style = .brace →
          find side .keyword (stripTildes line) start = none) := by
  obtain ⟨⟨l, column⟩, style⟩ := marker
  rw [onLine?_none]
  cases hk : find side .keyword (stripTildes line) start with
  | some k =>
      cases style
      · simp [hk, eq_comm]
      · simp
  | none =>
      cases style
      · simp [hk]
      · cases hb : find side .brace (stripTildes line) start <;>
          simp [eq_comm]

theorem onLine?_some_eq_some_iff {side : Side} {style : Style} {index : Nat}
    {line : Text} {start : Nat} {marker : Marker} :
    onLine? side (some style) index line start = some marker ↔
      marker.position.line = index ∧ marker.style = style ∧
        find side style (stripTildes line) start =
          some marker.position.column := by
  obtain ⟨⟨l, column⟩, style'⟩ := marker
  rw [onLine?_some]
  cases find side style (stripTildes line) start <;>
    simp [eq_comm, and_assoc, and_comm]

/-! ## Upward and downward

Both are read along the lines, in the direction of the search. -/

theorem openingUpFrom?_eq_some_iff {lines : List Text} {marker : Marker} :
    ∀ {index : Nat}, openingUpFrom? lines index = some marker ↔
      marker.position.line ≤ index ∧
        (∃ line, lines[marker.position.line]? = some line ∧
          onLine? .opening none marker.position.line line 0 = some marker) ∧
        ∀ j line, marker.position.line < j → j ≤ index → lines[j]? = some line →
          onLine? .opening none j line 0 = none := by
  have hline : ∀ {index : Nat},
      lines[index]?.bind (onLine? .opening none index · 0) = some marker ↔
        marker.position.line = index ∧
          ∃ line, lines[marker.position.line]? = some line ∧
            onLine? .opening none marker.position.line line 0 = some marker := by
    intro index
    rw [Option.bind_eq_some_iff]
    constructor
    · rintro ⟨line, hl, hm⟩
      obtain ⟨rfl, -⟩ := onLine?_none_eq_some_iff.1 hm
      exact ⟨rfl, line, hl, hm⟩
    · rintro ⟨rfl, line, hl, hm⟩
      exact ⟨line, hl, hm⟩
  intro index
  induction index with
  | zero =>
      rw [openingUpFrom?, hline]
      constructor
      · rintro ⟨hz, hm⟩
        exact ⟨by omega, hm, fun j _ h₁ h₂ => by omega⟩
      · rintro ⟨hz, hm, -⟩
        exact ⟨by omega, hm⟩
  | succ n ih =>
      rw [openingUpFrom?, Option.or_eq_some_iff, hline, ih]
      constructor
      · rintro (⟨hz, hm⟩ | ⟨hnone, hle, hm, hmin⟩)
        · exact ⟨by omega, hm, fun j _ h₁ h₂ => by omega⟩
        · refine ⟨by omega, hm, fun j line h₁ h₂ hl => ?_⟩
          rcases Nat.lt_or_eq_of_le h₂ with hlt | rfl
          · exact hmin j line h₁ (by omega) hl
          · rwa [hl, Option.bind_some] at hnone
      · rintro ⟨hle, hm, hmin⟩
        rcases Nat.lt_or_eq_of_le hle with hlt | heq
        · refine Or.inr ⟨?_, by omega, hm, fun j line h₁ h₂ =>
            hmin j line h₁ (by omega)⟩
          cases hl : lines[n + 1]? with
          | none => rfl
          | some line => exact hmin (n + 1) line hlt (Nat.le_refl _) hl
        · exact Or.inl ⟨heq, hm⟩

/-- Where the downward search starts on its `n`-th line. -/
def startAt (start : Nat) : Nat → Nat
  | 0 => start
  | _ + 1 => 0

theorem closingDownFrom?_eq_some_iff {only : Option Style} {marker : Marker} :
    ∀ {lines : List Text} {index start : Nat},
      closingDownFrom? only index start lines = some marker ↔
        ∃ n line, lines[n]? = some line ∧
          onLine? .closing only (index + n) line (startAt start n) =
            some marker ∧
          ∀ j line, j < n → lines[j]? = some line →
            onLine? .closing only (index + j) line (startAt start j) = none := by
  intro lines
  induction lines with
  | nil =>
      intro index start
      simp [closingDownFrom?]
  | cons first rest ih =>
      intro index start
      rw [closingDownFrom?, Option.or_eq_some_iff, ih]
      constructor
      · rintro (hm | ⟨hnone, n, line, hl, hm, hmin⟩)
        · exact ⟨0, first, rfl, hm, fun j _ hj => by omega⟩
        · refine ⟨n + 1, line, hl, ?_, fun j l hj hjl => ?_⟩
          · rw [show index + (n + 1) = index + 1 + n by omega]
            cases n <;> exact hm
          · cases j with
            | zero =>
                rw [List.getElem?_cons_zero] at hjl
                injection hjl with hjl
                subst hjl
                exact hnone
            | succ j =>
                rw [show index + (j + 1) = index + 1 + j by omega]
                have := hmin j l (by omega) hjl
                cases j <;> exact this
      · rintro ⟨n, line, hl, hm, hmin⟩
        cases n with
        | zero =>
            rw [List.getElem?_cons_zero] at hl
            injection hl with hl
            subst hl
            exact Or.inl hm
        | succ n =>
            refine Or.inr ⟨hmin 0 first (by omega) rfl, n, line, hl, ?_,
              fun j l hj hjl => ?_⟩
            · rw [show index + 1 + n = index + (n + 1) by omega]
              cases n <;> exact hm
            · rw [show index + 1 + j = index + (j + 1) by omega]
              have := hmin (j + 1) l (by omega) hjl
              cases j <;> exact this

theorem openingAbove_eq_ok_iff {lines : List Text} {cursor : Nat}
    {marker : Marker} :
    openingAbove lines cursor = .ok marker ↔
      cursor < lines.length ∧ openingUpFrom? lines cursor = some marker := by
  rw [openingAbove]
  split <;> rename_i hlen
  · simp; omega
  · cases openingUpFrom? lines cursor <;> simp
    omega

theorem closingBelow_eq_ok_iff {lines : List Text} {cursor start : Nat}
    {only : Option Style} {marker : Marker} :
    closingBelow lines cursor start only = .ok marker ↔
      cursor < lines.length ∧
        closingDownFrom? only cursor start (lines.drop cursor) =
          some marker := by
  rw [closingBelow]
  split <;> rename_i hlen
  · simp; omega
  · cases closingDownFrom? only cursor start (lines.drop cursor) <;> simp
    omega

end Marker

namespace Block

/-! ## The block around a line -/

/-- The block's two markers are where a search from the cursor's line outward
first finds any. -/
structure Encloses (lines : List Text) (cursor : Nat) (block : Block) : Prop where
  opening_le : block.opening.line ≤ cursor
  le_closing : cursor ≤ block.closing.line
  opening_found : ∃ line, lines[block.opening.line]? = some line ∧
    Marker.onLine? .opening none block.opening.line line 0 =
      some ⟨block.opening, block.style⟩
  opening_nearest : ∀ j line, block.opening.line < j → j ≤ cursor →
    lines[j]? = some line → Marker.onLine? .opening none j line 0 = none
  closing_found : ∃ line, lines[block.closing.line]? = some line ∧
    Marker.find .closing block.style (Marker.stripTildes line)
      (closingStart block.opening block.closing.line) = some block.closing.column
  closing_nearest : ∀ j line, cursor ≤ j → j < block.closing.line →
    lines[j]? = some line →
    Marker.find .closing block.style (Marker.stripTildes line)
      (closingStart block.opening j) = none

theorem startAt_closingStart {opening : Position} {cursor : Nat}
    (h : opening.line ≤ cursor) (n : Nat) :
    Marker.startAt (closingStart opening cursor) n =
      closingStart opening (cursor + n) := by
  cases n with
  | zero => rfl
  | succ n => rw [Marker.startAt, closingStart, if_neg (by omega)]

theorem enclosing_eq_ok_iff_markers {lines : List Text} {cursor : Nat}
    {block : Block} :
    enclosing lines cursor = .ok block ↔
      cursor < lines.length ∧
        Marker.openingUpFrom? lines cursor = some ⟨block.opening, block.style⟩ ∧
        ∃ closing : Marker, closing.position = block.closing ∧
          Marker.closingDownFrom? (some block.style) cursor
            (closingStart block.opening cursor) (lines.drop cursor) =
              some closing := by
  rw [enclosing]
  constructor
  · intro h
    cases ho : Marker.openingAbove lines cursor with
    | error e => rw [ho] at h; cases h
    | ok opening =>
        cases hc : closingOf lines cursor opening with
        | error e => simp only [ho, hc, bind, Except.bind] at h; cases h
        | ok closing =>
            simp only [ho, hc, bind, Except.bind, pure, Except.pure] at h
            injection h with h
            subst h
            rw [closingOf] at hc
            obtain ⟨hlen, hup⟩ := Marker.openingAbove_eq_ok_iff.1 ho
            exact ⟨hlen, hup, closing, rfl,
              (Marker.closingBelow_eq_ok_iff.1 hc).2⟩
  · rintro ⟨hlen, hup, closing, hpos, hdown⟩
    have ho := Marker.openingAbove_eq_ok_iff.2 ⟨hlen, hup⟩
    have hc := Marker.closingBelow_eq_ok_iff.2 ⟨hlen, hdown⟩
    simp only [ho, closingOf, hc, bind, Except.bind, pure, Except.pure, hpos]

/-- The search finds a block exactly when the block encloses the line. -/
theorem enclosing_eq_ok_iff {lines : List Text} {cursor : Nat} {block : Block} :
    enclosing lines cursor = .ok block ↔ Encloses lines cursor block := by
  rw [enclosing_eq_ok_iff_markers]
  constructor
  · rintro ⟨-, hup, closing, hpos, hdown⟩
    obtain ⟨hle, hfound, hnearest⟩ := Marker.openingUpFrom?_eq_some_iff.1 hup
    obtain ⟨n, line, hl, hm, hmin⟩ := Marker.closingDownFrom?_eq_some_iff.1 hdown
    rw [List.getElem?_drop] at hl
    rw [startAt_closingStart hle, Marker.onLine?_some_eq_some_iff, hpos] at hm
    obtain ⟨hline, -, hcol⟩ := hm
    refine ⟨hle, by omega, hfound, hnearest, ⟨line, ?_, ?_⟩, ?_⟩
    · rw [hline]; exact hl
    · rw [hline]; exact hcol
    · intro j l hj hjc hjl
      have hj' : cursor + (j - cursor) = j := by omega
      have := hmin (j - cursor) l (by omega) (by rw [List.getElem?_drop, hj', hjl])
      rwa [startAt_closingStart hle, hj', Marker.onLine?_some,
        Option.map_eq_none_iff] at this
  · rintro ⟨hle, hcl, hfound, hnearest, ⟨line, hl, hcol⟩, hmin⟩
    have hc' : cursor + (block.closing.line - cursor) = block.closing.line := by
      omega
    have hlen : block.closing.line < lines.length :=
      (List.getElem?_eq_some_iff.1 hl).1
    refine ⟨by omega, Marker.openingUpFrom?_eq_some_iff.2 ⟨hle, hfound, hnearest⟩,
      ⟨block.closing, block.style⟩, rfl, ?_⟩
    refine Marker.closingDownFrom?_eq_some_iff.2
      ⟨block.closing.line - cursor, line, ?_, ?_, ?_⟩
    · rw [List.getElem?_drop, hc', hl]
    · rw [startAt_closingStart hle, hc', Marker.onLine?_some_eq_some_iff]
      exact ⟨rfl, rfl, hcol⟩
    · intro j l hj hjl
      rw [List.getElem?_drop] at hjl
      rw [startAt_closingStart hle, Marker.onLine?_some, Option.map_eq_none_iff]
      exact hmin (cursor + j) l (by omega) (by omega) hjl

namespace Encloses

variable {lines : List Text} {cursor : Nat} {block : Block}

theorem opening_le_closing (h : Encloses lines cursor block) :
    block.opening.line ≤ block.closing.line :=
  Nat.le_trans h.opening_le h.le_closing

theorem closing_lt (h : Encloses lines cursor block) :
    block.closing.line < lines.length := by
  obtain ⟨line, hl, -⟩ := h.closing_found
  exact (List.getElem?_eq_some_iff.1 hl).1

/-- The opening marker, read on the line it stands on. -/
theorem find_opening (h : Encloses lines cursor block) {line : Text}
    (hl : lines[block.opening.line]? = some line) :
    Marker.find .opening block.style (Marker.stripTildes line) 0 =
        some block.opening.column ∧
      (block.style = .brace →
        Marker.find .opening .keyword (Marker.stripTildes line) 0 = none) := by
  obtain ⟨line', hl', hm⟩ := h.opening_found
  rw [hl] at hl'
  injection hl' with hl'
  subst hl'
  exact (Marker.onLine?_none_eq_some_iff.1 hm).2

/-- The closing marker, likewise. -/
theorem find_closing (h : Encloses lines cursor block) {line : Text}
    (hl : lines[block.closing.line]? = some line) :
    Marker.find .closing block.style (Marker.stripTildes line)
      (closingStart block.opening block.closing.line) =
        some block.closing.column := by
  obtain ⟨line', hl', hm⟩ := h.closing_found
  rw [hl] at hl'
  injection hl' with hl'
  subst hl'
  exact hm

end Encloses

/-- A block on lines of its own is found from the first of them, whatever stands
before and after them. -/
theorem encloses_append {before own after : List Text} {style : Style}
    {column : Nat} {n closing : Nat} {first last : Text}
    (hfirst : own[0]? = some first)
    (hopen : Marker.onLine? .opening none before.length first 0 =
      some ⟨⟨before.length, column⟩, style⟩)
    (hlast : own[n]? = some last)
    (hclose : Marker.find .closing style (Marker.stripTildes last)
      (Marker.startAt (column + 1) n) = some closing)
    (hbetween : ∀ j line, j < n → own[j]? = some line →
      Marker.find .closing style (Marker.stripTildes line)
        (Marker.startAt (column + 1) j) = none) :
    Encloses (before ++ (own ++ after)) before.length
      ⟨style, ⟨before.length, column⟩, ⟨before.length + n, closing⟩⟩ := by
  have hn : n < own.length := (List.getElem?_eq_some_iff.1 hlast).1
  have hown : ∀ i, i < own.length →
      (before ++ (own ++ after))[before.length + i]? = own[i]? := by
    intro i hi
    rw [List.getElem?_append_right (Nat.le_add_right _ _), Nat.add_sub_cancel_left,
      List.getElem?_append_left hi]
  have hstart : ∀ i, closingStart ⟨before.length, column⟩ (before.length + i) =
      Marker.startAt (column + 1) i := by
    intro i
    rw [← startAt_closingStart (Nat.le_refl _) i, closingStart, if_pos rfl]
  refine ⟨Nat.le_refl _, Nat.le_add_right _ _, ⟨first, ?_, hopen⟩,
    fun j _ (h₁ : before.length < j) h₂ => by omega, ⟨last, ?_, ?_⟩,
    fun j line (h₁ : before.length ≤ j) h₂ hl => ?_⟩
  · rw [← Nat.add_zero before.length, hown 0 (by omega), hfirst]
  · show (before ++ (own ++ after))[before.length + n]? = some last
    rw [hown n hn, hlast]
  · show Marker.find .closing style (Marker.stripTildes last)
      (closingStart ⟨before.length, column⟩ (before.length + n)) = some closing
    rw [hstart n, hclose]
  · obtain ⟨i, rfl⟩ := Nat.le.dest h₁
    replace h₂ : before.length + i < before.length + n := h₂
    rw [hown i (by omega)] at hl
    rw [hstart i]
    exact hbetween i line (by omega) hl

end Block

end RubyBlocks
