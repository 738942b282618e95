import RubyBlocks.Proofs.Conversion

/-!
# When there is nothing to toggle

A toggle can fail for three reasons, and each has a condition of its own that speaks
of the lines and the markers on them and not of the order in which they are read: the
cursor is behind the last line, nothing opens at or above it, or what opens nearest
is not closed at or below it. `toggle_outcome_iff` says that these are all the reasons
there are. The conversions have errors too, for blocks that lie outside of the lines
or stand on their head; a block that was found does neither, so none of them shows.

Both searches fail exactly when no line on their way has anything for them. With
what is known about a search that succeeds, that settles which error it is: the
downward search only starts once the upward one has found its marker.
-/

namespace RubyBlocks

namespace Marker

/-- A marker of this kind stands somewhere on the line, its tildes aside. -/
def Carries (side : Side) (style : Style) (line : Text) : Prop :=
  ∃ k, StandsIn side style (stripTildes line) k

/-- The marker that opens the block around a line: on the nearest line that carries
any, the first keyword or, if it has none, the first brace. -/
structure NearestOpening (lines : List Text) (cursor : Nat) (marker : Marker) :
    Prop where
  line_le : marker.position.line ≤ cursor
  first : ∃ line, lines[marker.position.line]? = some line ∧
    StandsIn .opening marker.style (stripTildes line) marker.position.column ∧
    (∀ j < marker.position.column,
      ¬ StandsIn .opening marker.style (stripTildes line) j) ∧
    (marker.style = .brace → ¬ Carries .opening .keyword line)
  nearest : ∀ j line, marker.position.line < j → j ≤ cursor →
    lines[j]? = some line → ∀ style, ¬ Carries .opening style line

/-! ## Whole lines

A search from the first column sees every marker of the line. The first column does
not count for an opening brace, but none stands there. Closing markers are also
searched from further on, and every column from there counts. -/

theorem StandsIn.firstColumn_le {side : Side} {style : Style} {line : Text} {k : Nat}
    (h : StandsIn side style line k) : firstColumn side style 0 ≤ k := by
  rcases Nat.eq_zero_or_pos k with rfl | hk
  · cases style <;> cases side
    case brace.opening => exact absurd h (by simp [StandsIn, standsAt])
    all_goals exact Nat.le_refl _
  · cases style <;> cases side
    case brace.opening => exact hk
    all_goals exact Nat.zero_le _

theorem find_zero_eq_none_iff {side : Side} {style : Style} {line : Text} :
    find side style line 0 = none ↔ ∀ k, ¬ StandsIn side style line k := by
  rw [find_eq_none_iff]
  exact ⟨fun h k hs => h k hs.firstColumn_le hs, fun h k _ => h k⟩

theorem find_zero_eq_some_iff {side : Side} {style : Style} {line : Text} {k : Nat} :
    find side style line 0 = some k ↔
      StandsIn side style line k ∧ ∀ j < k, ¬ StandsIn side style line j := by
  rw [find_eq_some_iff]
  constructor
  · rintro ⟨-, hs, hmin⟩
    exact ⟨hs, fun j hj hsj => hmin j hsj.firstColumn_le hj hsj⟩
  · rintro ⟨hs, hmin⟩
    exact ⟨hs.firstColumn_le, hs, fun j _ hj => hmin j hj⟩

theorem find_closing_eq_none_iff {style : Style} {line : Text} {start : Nat} :
    find .closing style line start = none ↔
      ∀ k, StandsIn .closing style line k → k < start := by
  have hfirst : firstColumn .closing style start = start := by
    cases style <;> rfl
  rw [find_eq_none_iff, hfirst]
  constructor
  · intro h k hs
    exact Nat.lt_of_not_le fun hk => h k hk hs
  · intro h k hk hs
    exact absurd (h k hs) (by omega)

theorem not_carries_iff {side : Side} {style : Style} {line : Text} :
    ¬ Carries side style line ↔ find side style (stripTildes line) 0 = none := by
  rw [find_zero_eq_none_iff, Carries, not_exists]

theorem onLine?_none_eq_none_iff {side : Side} {index : Nat} {line : Text} :
    onLine? side none index line 0 = none ↔
      ∀ style, ¬ Carries side style line := by
  rw [onLine?_none, Option.or_eq_none_iff, Option.map_eq_none_iff,
    Option.map_eq_none_iff, ← not_carries_iff, ← not_carries_iff]
  constructor
  · rintro ⟨hkeyword, hbrace⟩ style
    cases style
    · exact hkeyword
    · exact hbrace
  · intro h
    exact ⟨h .keyword, h .brace⟩

/-! ## Searches that find nothing -/

theorem openingUpFrom?_eq_none_iff {lines : List Text} :
    ∀ {index : Nat}, openingUpFrom? lines index = none ↔
      ∀ j line, j ≤ index → lines[j]? = some line →
        ∀ style, ¬ Carries .opening style line := by
  have hline : ∀ {index : Nat},
      lines[index]?.bind (onLine? .opening none index · 0) = none ↔
        ∀ line, lines[index]? = some line →
          ∀ style, ¬ Carries .opening style line := by
    intro index
    rw [Option.bind_eq_none_iff]
    exact forall₂_congr fun line _ => onLine?_none_eq_none_iff
  intro index
  induction index with
  | zero =>
      rw [openingUpFrom?, hline]
      constructor
      · intro h j line hj hl
        obtain rfl : j = 0 := by omega
        exact h line hl
      · intro h line hl
        exact h 0 line (Nat.le_refl _) hl
  | succ n ih =>
      rw [openingUpFrom?, Option.or_eq_none_iff, hline, ih]
      constructor
      · rintro ⟨hhere, habove⟩ j line hj hl
        rcases Nat.lt_or_eq_of_le hj with hlt | rfl
        · exact habove j line (by omega) hl
        · exact hhere line hl
      · intro h
        exact ⟨fun line hl => h (n + 1) line (Nat.le_refl _) hl,
          fun j line hj hl => h j line (by omega) hl⟩

theorem openingUpFrom?_eq_some_iff_nearest {lines : List Text} {cursor : Nat}
    {marker : Marker} :
    openingUpFrom? lines cursor = some marker ↔
      NearestOpening lines cursor marker := by
  have hmarker : ∀ line, onLine? .opening none marker.position.line line 0 =
      some marker ↔
        StandsIn .opening marker.style (stripTildes line) marker.position.column ∧
        (∀ j < marker.position.column,
          ¬ StandsIn .opening marker.style (stripTildes line) j) ∧
        (marker.style = .brace → ¬ Carries .opening .keyword line) := by
    intro line
    rw [onLine?_none_eq_some_iff, find_zero_eq_some_iff, not_carries_iff,
      and_assoc]
    exact and_iff_right rfl
  rw [openingUpFrom?_eq_some_iff]
  constructor
  · rintro ⟨hle, ⟨line, hl, hm⟩, hmin⟩
    exact ⟨hle, ⟨line, hl, (hmarker line).1 hm⟩, fun j line h₁ h₂ hl =>
      onLine?_none_eq_none_iff.1 (hmin j line h₁ h₂ hl)⟩
  · rintro ⟨hle, ⟨line, hl, hm⟩, hmin⟩
    exact ⟨hle, ⟨line, hl, (hmarker line).2 hm⟩, fun j line h₁ h₂ hl =>
      onLine?_none_eq_none_iff.2 (hmin j line h₁ h₂ hl)⟩

theorem closingDownFrom?_eq_none_iff {only : Option Style} :
    ∀ {lines : List Text} {index start : Nat},
      closingDownFrom? only index start lines = none ↔
        ∀ n line, lines[n]? = some line →
          onLine? .closing only (index + n) line (startAt start n) = none := by
  intro lines
  induction lines with
  | nil =>
      intro index start
      simp [closingDownFrom?]
  | cons first rest ih =>
      intro index start
      rw [closingDownFrom?, Option.or_eq_none_iff, ih]
      constructor
      · rintro ⟨hfirst, hrest⟩ n line hl
        cases n with
        | zero =>
            rw [List.getElem?_cons_zero] at hl
            injection hl with hl
            subst hl
            exact hfirst
        | succ n =>
            rw [show index + (n + 1) = index + 1 + n by omega]
            have := hrest n line hl
            cases n <;> exact this
      · intro h
        refine ⟨h 0 first rfl, fun n line hl => ?_⟩
        rw [show index + 1 + n = index + (n + 1) by omega]
        have := h (n + 1) line hl
        cases n <;> exact this

end Marker

namespace Block

/-! ## Why a toggle fails -/

/-- Nothing opens a block at or above the line. -/
def Unopened (lines : List Text) (cursor : Nat) : Prop :=
  cursor < lines.length ∧ ∀ j line, j ≤ cursor → lines[j]? = some line →
    ∀ style, ¬ Marker.Carries .opening style line

/-- The nearest block that opens is of this style and is not closed at or below the
line. A closing marker on the line that it opens on counts only behind the opening
one. -/
def Unclosed (lines : List Text) (cursor : Nat) (style : Style) : Prop :=
  cursor < lines.length ∧ ∃ opening, Marker.NearestOpening lines cursor opening ∧
    opening.style = style ∧ ∀ j line k, cursor ≤ j → lines[j]? = some line →
      Marker.StandsIn .closing style (Marker.stripTildes line) k →
        j = opening.position.line ∧ k ≤ opening.position.column

/-- On the line that the block opens on a closing marker counts only behind it. -/
theorem find_closingStart_eq_none_iff {style : Style} {line : Text} {opening : Position}
    {j : Nat} :
    Marker.find .closing style line (closingStart opening j) = none ↔
      ∀ k, Marker.StandsIn .closing style line k →
        j = opening.line ∧ k ≤ opening.column := by
  have hstart : ∀ k, k < closingStart opening j ↔
      j = opening.line ∧ k ≤ opening.column := by
    intro k
    rw [closingStart]
    split <;> omega
  rw [Marker.find_closing_eq_none_iff]
  exact forall₂_congr fun k _ => hstart k

theorem closingOf_eq_error_iff {lines : List Text} {cursor : Nat} {opening : Marker}
    {error : BlockError} (hcursor : cursor < lines.length)
    (hopening : Marker.NearestOpening lines cursor opening) :
    closingOf lines cursor opening = .error error ↔
      (∀ j line k, cursor ≤ j → lines[j]? = some line →
        Marker.StandsIn .closing opening.style (Marker.stripTildes line) k →
          j = opening.position.line ∧ k ≤ opening.position.column) ∧
        error = .noClosing cursor (some opening.style) := by
  have hnone : Marker.closingDownFrom? (some opening.style) cursor
      (closingStart opening.position cursor) (lines.drop cursor) = none ↔
        ∀ j line k, cursor ≤ j → lines[j]? = some line →
          Marker.StandsIn .closing opening.style (Marker.stripTildes line) k →
            j = opening.position.line ∧ k ≤ opening.position.column := by
    rw [Marker.closingDownFrom?_eq_none_iff]
    constructor
    · intro h j line k hj hl hs
      obtain ⟨n, rfl⟩ := Nat.le.dest hj
      have hline := h n line (by rw [List.getElem?_drop, hl])
      rw [startAt_closingStart hopening.line_le, Marker.onLine?_some,
        Option.map_eq_none_iff, find_closingStart_eq_none_iff] at hline
      exact hline k hs
    · intro h n line hl
      rw [List.getElem?_drop] at hl
      rw [startAt_closingStart hopening.line_le, Marker.onLine?_some,
        Option.map_eq_none_iff, find_closingStart_eq_none_iff]
      intro k hs
      exact h _ line k (by omega) hl hs
  rw [← hnone, closingOf, Marker.closingBelow, if_neg (by omega)]
  cases Marker.closingDownFrom? (some opening.style) cursor
      (closingStart opening.position cursor) (lines.drop cursor) with
  | none => simp [eq_comm]
  | some closing => simp

theorem openingAbove_eq_error_iff {lines : List Text} {cursor : Nat}
    {error : BlockError} :
    Marker.openingAbove lines cursor = .error error ↔
      lines.length ≤ cursor ∧ error = .noSuchLine cursor lines.length ∨
        Unopened lines cursor ∧ error = .noOpening cursor := by
  rw [Unopened, ← Marker.openingUpFrom?_eq_none_iff, Marker.openingAbove]
  split <;> rename_i hlen
  · simp [hlen, eq_comm]
  · cases Marker.openingUpFrom? lines cursor with
    | none => simp [Nat.lt_of_not_le hlen, hlen, eq_comm]
    | some marker => simp [hlen]

theorem enclosing_eq_error_iff {lines : List Text} {cursor : Nat}
    {error : BlockError} :
    enclosing lines cursor = .error error ↔
      lines.length ≤ cursor ∧ error = .noSuchLine cursor lines.length ∨
        Unopened lines cursor ∧ error = .noOpening cursor ∨
        ∃ style, Unclosed lines cursor style ∧
          error = .noClosing cursor (some style) := by
  rw [← or_assoc, ← openingAbove_eq_error_iff]
  cases ho : Marker.openingAbove lines cursor with
  | error e =>
      have hunclosed : ∀ style, ¬ Unclosed lines cursor style := by
        rintro style ⟨hcursor, opening, hopening, -⟩
        have hok := Marker.openingAbove_eq_ok_iff.2
          ⟨hcursor, Marker.openingUpFrom?_eq_some_iff_nearest.2 hopening⟩
        rw [ho] at hok
        cases hok
      simp only [enclosing, ho, bind, Except.bind, hunclosed, false_and,
        exists_false, or_false]
      simp
  | ok opening =>
      obtain ⟨hcursor, hup⟩ := Marker.openingAbove_eq_ok_iff.1 ho
      have hopening := Marker.openingUpFrom?_eq_some_iff_nearest.1 hup
      have hsearch : enclosing lines cursor = .error error ↔
          closingOf lines cursor opening = .error error := by
        simp only [enclosing, ho, bind, Except.bind]
        cases closingOf lines cursor opening <;> simp [pure, Except.pure]
      rw [hsearch, closingOf_eq_error_iff hcursor hopening]
      constructor
      · rintro ⟨hclosing, rfl⟩
        exact Or.inr ⟨opening.style, ⟨hcursor, opening, hopening, rfl, hclosing⟩, rfl⟩
      · rintro (h | ⟨style, ⟨-, other, hother, rfl, hclosing⟩, rfl⟩)
        · cases h
        · rw [← Marker.openingUpFrom?_eq_some_iff_nearest, hup] at hother
          injection hother with hother
          subst hother
          exact ⟨hclosing, rfl⟩

theorem toggle_eq_error_iff {lines : List Text} {cursor : Nat} {error : BlockError} :
    toggle lines cursor = .error error ↔ enclosing lines cursor = .error error := by
  cases hblock : enclosing lines cursor with
  | error e => simp [toggle, hblock, bind, Except.bind]
  | ok block =>
      have hencl := enclosing_eq_ok_iff.1 hblock
      obtain ⟨-, new, -, hnew, -⟩ := hencl.exists_converts
      rw [toggle_eq_ok hencl hnew]
      simp

/-- Why a toggle fails, and that it succeeds otherwise. -/
theorem toggle_outcome_iff (lines : List Text) (cursor : Nat) :
    (toggle lines cursor = .error (.noSuchLine cursor lines.length) ↔
      lines.length ≤ cursor) ∧
    (toggle lines cursor = .error (.noOpening cursor) ↔ Unopened lines cursor) ∧
    (∀ style, toggle lines cursor = .error (.noClosing cursor (some style)) ↔
      Unclosed lines cursor style) ∧
    ((∃ toggled, toggle lines cursor = .ok toggled) ↔
      ¬ lines.length ≤ cursor ∧ ¬ Unopened lines cursor ∧
        ∀ style, ¬ Unclosed lines cursor style) ∧
    ∀ startLine endLine,
      toggle lines cursor ≠ .error (.reversed startLine endLine) := by
  have herror : ∀ error, toggle lines cursor = .error error ↔ _ := fun error =>
    toggle_eq_error_iff.trans enclosing_eq_error_iff
  refine ⟨?_, ?_, fun style => ?_, ?_, fun startLine endLine => ?_⟩
  · simp [herror]
  · simp [herror]
  · simp [herror]
  · have hok : (∃ toggled, toggle lines cursor = .ok toggled) ↔
        ∀ error, toggle lines cursor ≠ .error error := by
      cases toggle lines cursor <;> simp
    rw [hok]
    constructor
    · intro h
      exact ⟨fun hlen => h _ ((herror _).2 (Or.inl ⟨hlen, rfl⟩)),
        fun hopen => h _ ((herror _).2 (Or.inr (Or.inl ⟨hopen, rfl⟩))),
        fun style hclose =>
          h _ ((herror _).2 (Or.inr (Or.inr ⟨style, hclose, rfl⟩)))⟩
    · rintro ⟨hlen, hopen, hclose⟩ error h
      rcases (herror error).1 h with ⟨h, -⟩ | ⟨h, -⟩ | ⟨style, h, -⟩
      · exact hlen h
      · exact hopen h
      · exact hclose style h
  · simp [herror]

end Block

end RubyBlocks
