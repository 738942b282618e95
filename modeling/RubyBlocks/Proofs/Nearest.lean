import RubyBlocks.Proofs.Failure

/-!
# The nearest marker

A search walks away from the cursor's line and takes the first marker that it may
take. Upward that is said by `NearestOpening`; `NearestClosing` says it for the way
down, where the search may be held to one style. On one line the two agree about what
comes first: a keyword before a brace, wherever the two stand, and of one style the
marker furthest to the left.

Both descriptions are exact. What they describe is found, and nothing is found exactly
when no line on the way carries anything that the search may take. So a search for
either style needs no walk of its own to be understood. Every marker it meets is one
that a search held to that style meets as well, and of the two that these bring back it
has the nearer one.
-/

namespace RubyBlocks

namespace Marker

/-- The marker that closes a block below a line, in the given style if there is one. -/
structure NearestClosing (lines : List Text) (cursor : Nat) (only : Option Style)
    (marker : Marker) : Prop where
  le_line : cursor ≤ marker.position.line
  allowed : allows only marker.style = true
  first : ∃ line, lines[marker.position.line]? = some line ∧
    StandsIn .closing marker.style (stripTildes line) marker.position.column ∧
    (∀ j < marker.position.column,
      ¬ StandsIn .closing marker.style (stripTildes line) j) ∧
    (marker.style = .brace → allows only .keyword = true →
      ¬ Carries .closing .keyword line)
  nearest : ∀ j line, cursor ≤ j → j < marker.position.line → lines[j]? = some line →
    ∀ style, allows only style = true → ¬ Carries .closing style line

/-- No line from this one on carries a closing marker, of the given style if there is
one. -/
def NothingCloses (lines : List Text) (cursor : Nat) (only : Option Style) : Prop :=
  ∀ j line, cursor ≤ j → lines[j]? = some line →
    ∀ style, allows only style = true → ¬ Carries .closing style line

/-- Of what two searches came back with, one for each style, the marker on the earlier
line, and the keyword if they are on the same. -/
def nearer (cursor : Nat) :
    Except BlockError Marker → Except BlockError Marker → Except BlockError Marker
  | .ok keyword, .ok brace =>
    if brace.position.line < keyword.position.line then .ok brace else .ok keyword
  | .ok keyword, .error _ => .ok keyword
  | .error _, .ok brace => .ok brace
  | .error _, .error _ => .error (.noClosing cursor none)

/-! ## One line

Whatever styles a search is held to, what it takes on a whole line and when it takes
nothing is read off the markers that the line carries. -/

theorem allows_none (style : Style) : allows none style = true := rfl

theorem allows_some_iff {only style : Style} :
    allows (some only) style = true ↔ only = style := by
  simp [allows]

theorem onLine?_eq_some_iff {side : Side} {only : Option Style} {index : Nat}
    {line : Text} {marker : Marker} :
    onLine? side only index line 0 = some marker ↔
      marker.position.line = index ∧ allows only marker.style = true ∧
        StandsIn side marker.style (stripTildes line) marker.position.column ∧
        (∀ j < marker.position.column,
          ¬ StandsIn side marker.style (stripTildes line) j) ∧
        (marker.style = .brace → allows only .keyword = true →
          ¬ Carries side .keyword line) := by
  cases only with
  | none =>
      rw [onLine?_none_eq_some_iff, find_zero_eq_some_iff, not_carries_iff, and_assoc]
      simp only [allows_none, true_and, true_implies]
  | some only =>
      rw [onLine?_some_eq_some_iff, find_zero_eq_some_iff, allows_some_iff,
        allows_some_iff, eq_comm (a := marker.style)]
      constructor
      · rintro ⟨hline, rfl, hstands, hfirst⟩
        refine ⟨hline, rfl, hstands, hfirst, fun hbrace hkeyword => ?_⟩
        rw [hbrace] at hkeyword
        cases hkeyword
      · rintro ⟨hline, rfl, hstands, hfirst, -⟩
        exact ⟨hline, rfl, hstands, hfirst⟩

theorem onLine?_eq_none_iff {side : Side} {only : Option Style} {index : Nat}
    {line : Text} :
    onLine? side only index line 0 = none ↔
      ∀ style, allows only style = true → ¬ Carries side style line := by
  cases only with
  | none =>
      rw [onLine?_none_eq_none_iff]
      simp only [allows_none, true_implies]
  | some only =>
      rw [onLine?_some, Option.map_eq_none_iff, ← not_carries_iff]
      constructor
      · intro h style hstyle
        rw [← allows_some_iff.1 hstyle]
        exact h
      · intro h
        exact h only (allows_some_iff.2 rfl)

/-! ## The way down -/

theorem startAt_zero (n : Nat) : startAt 0 n = 0 := by
  cases n <;> rfl

theorem closingDownFrom?_eq_some_iff_nearest {lines : List Text} {cursor : Nat}
    {only : Option Style} {marker : Marker} :
    closingDownFrom? only cursor 0 (lines.drop cursor) = some marker ↔
      NearestClosing lines cursor only marker := by
  rw [closingDownFrom?_eq_some_iff]
  constructor
  · rintro ⟨n, line, hl, hm, hmin⟩
    rw [List.getElem?_drop] at hl
    rw [startAt_zero, onLine?_eq_some_iff] at hm
    obtain ⟨hline, hallowed, hfirst⟩ := hm
    refine ⟨by omega, hallowed, ⟨line, by rw [hline, hl], hfirst⟩, ?_⟩
    intro j passed hj hlt hpassed
    obtain ⟨i, rfl⟩ := Nat.le.dest hj
    have hnone := hmin i passed (by omega) (by rw [List.getElem?_drop, hpassed])
    rw [startAt_zero] at hnone
    exact onLine?_eq_none_iff.1 hnone
  · rintro ⟨hle, hallowed, ⟨line, hl, hfirst⟩, hnearest⟩
    obtain ⟨n, hn⟩ := Nat.le.dest hle
    refine ⟨n, line, by rw [List.getElem?_drop, hn, hl], ?_, ?_⟩
    · rw [startAt_zero]
      exact onLine?_eq_some_iff.2 ⟨hn.symm, hallowed, hfirst⟩
    · intro j passed hj hpassed
      rw [List.getElem?_drop] at hpassed
      rw [startAt_zero]
      exact onLine?_eq_none_iff.2
        (hnearest (cursor + j) passed (by omega) (by omega) hpassed)

theorem closingDownFrom?_eq_none_iff_nothing {lines : List Text} {cursor : Nat}
    {only : Option Style} :
    closingDownFrom? only cursor 0 (lines.drop cursor) = none ↔
      NothingCloses lines cursor only := by
  rw [closingDownFrom?_eq_none_iff]
  constructor
  · intro h j line hj hl
    obtain ⟨n, rfl⟩ := Nat.le.dest hj
    have hnone := h n line (by rw [List.getElem?_drop, hl])
    rw [startAt_zero] at hnone
    exact onLine?_eq_none_iff.1 hnone
  · intro h n line hl
    rw [List.getElem?_drop] at hl
    rw [startAt_zero]
    exact onLine?_eq_none_iff.2 (h (cursor + n) line (by omega) hl)

section

variable {lines : List Text} {cursor : Nat} {only : Option Style}

theorem closingBelow_eq_ok_iff_nearest (hcursor : cursor < lines.length)
    {marker : Marker} :
    closingBelow lines cursor 0 only = .ok marker ↔
      NearestClosing lines cursor only marker := by
  rw [closingBelow_eq_ok_iff, closingDownFrom?_eq_some_iff_nearest]
  exact and_iff_right hcursor

theorem closingBelow_eq_error_iff (hcursor : cursor < lines.length)
    {error : BlockError} :
    closingBelow lines cursor 0 only = .error error ↔
      NothingCloses lines cursor only ∧ error = .noClosing cursor only := by
  rw [← closingDownFrom?_eq_none_iff_nothing, closingBelow, if_neg (by omega)]
  cases closingDownFrom? only cursor 0 (lines.drop cursor) with
  | none => simp [eq_comm]
  | some marker => simp

/-! ## Both styles at once

What a search held to one style finds is found by a search for both, unless that
comes across the other style on the way. -/

theorem NothingCloses.not_carries {style : Style}
    (h : NothingCloses lines cursor (some style)) {j : Nat} {line : Text}
    (hj : cursor ≤ j) (hl : lines[j]? = some line) : ¬ Carries .closing style line :=
  h j line hj hl style (allows_some_iff.2 rfl)

theorem NearestClosing.not_carries {style : Style} {marker : Marker}
    (h : NearestClosing lines cursor (some style) marker) {j : Nat} {line : Text}
    (hj : cursor ≤ j) (hlt : j < marker.position.line) (hl : lines[j]? = some line) :
    ¬ Carries .closing style line :=
  h.nearest j line hj hlt hl style (allows_some_iff.2 rfl)

theorem NearestClosing.unlocked {style : Style} {marker : Marker}
    (h : NearestClosing lines cursor (some style) marker)
    (hother : ∀ j line, cursor ≤ j → j < marker.position.line →
      lines[j]? = some line → ¬ Carries .closing style.other line)
    (htie : style = .brace → ∀ line, lines[marker.position.line]? = some line →
      ¬ Carries .closing .keyword line) :
    NearestClosing lines cursor none marker := by
  obtain ⟨line, hl, hstands, hfirst, -⟩ := h.first
  have hstyle := allows_some_iff.1 h.allowed
  refine ⟨h.le_line, rfl, ⟨line, hl, hstands, hfirst, fun hbrace _ => ?_⟩, ?_⟩
  · exact htie (hstyle.trans hbrace) line hl
  · intro j passed hj hlt hpassed other _
    have hown := h.not_carries hj hlt hpassed
    have hopposite := hother j passed hj hlt hpassed
    cases other <;> cases style <;> assumption

theorem closingBelow_none (hcursor : cursor < lines.length) :
    closingBelow lines cursor 0 none =
      nearer cursor (closingBelow lines cursor 0 (some .keyword))
        (closingBelow lines cursor 0 (some .brace)) := by
  cases hkeyword : closingBelow lines cursor 0 (some .keyword) with
  | error e =>
      obtain ⟨hnokeyword, -⟩ := (closingBelow_eq_error_iff hcursor).1 hkeyword
      cases hbrace : closingBelow lines cursor 0 (some .brace) with
      | error e' =>
          obtain ⟨hnobrace, -⟩ := (closingBelow_eq_error_iff hcursor).1 hbrace
          refine (closingBelow_eq_error_iff hcursor).2 ⟨?_, rfl⟩
          intro j line hj hl style _
          cases style
          · exact hnokeyword.not_carries hj hl
          · exact hnobrace.not_carries hj hl
      | ok brace =>
          have hfirst := (closingBelow_eq_ok_iff_nearest hcursor).1 hbrace
          exact (closingBelow_eq_ok_iff_nearest hcursor).2 (hfirst.unlocked
            (fun j line hj _ hl => hnokeyword.not_carries hj hl)
            fun _ line hl => hnokeyword.not_carries hfirst.le_line hl)
  | ok keyword =>
      have hfirst := (closingBelow_eq_ok_iff_nearest hcursor).1 hkeyword
      cases hbrace : closingBelow lines cursor 0 (some .brace) with
      | error e =>
          obtain ⟨hnobrace, -⟩ := (closingBelow_eq_error_iff hcursor).1 hbrace
          exact (closingBelow_eq_ok_iff_nearest hcursor).2 (hfirst.unlocked
            (fun j line hj _ hl => hnobrace.not_carries hj hl) fun h => nomatch h)
      | ok brace =>
          have hsecond := (closingBelow_eq_ok_iff_nearest hcursor).1 hbrace
          rw [nearer]
          split <;> rename_i hline
          · exact (closingBelow_eq_ok_iff_nearest hcursor).2 (hsecond.unlocked
              (fun j line hj hlt hl => hfirst.not_carries hj (by omega) hl)
              fun _ line hl => hfirst.not_carries hsecond.le_line hline hl)
          · exact (closingBelow_eq_ok_iff_nearest hcursor).2 (hfirst.unlocked
              (fun j line hj hlt hl => hsecond.not_carries hj (by omega) hl)
              fun h => nomatch h)

/-- What the two searches find, when they find nothing, and how a search for either
style goes back to one for each. -/
theorem searches_nearest (hcursor : cursor < lines.length) :
    (∀ marker, openingAbove lines cursor = .ok marker ↔
      NearestOpening lines cursor marker) ∧
    (∀ error, openingAbove lines cursor = .error error ↔
      (∀ j line, j ≤ cursor → lines[j]? = some line →
        ∀ style, ¬ Carries .opening style line) ∧ error = .noOpening cursor) ∧
    (∀ only marker, closingBelow lines cursor 0 only = .ok marker ↔
      NearestClosing lines cursor only marker) ∧
    (∀ only error, closingBelow lines cursor 0 only = .error error ↔
      NothingCloses lines cursor only ∧ error = .noClosing cursor only) ∧
    closingBelow lines cursor 0 none =
      nearer cursor (closingBelow lines cursor 0 (some .keyword))
        (closingBelow lines cursor 0 (some .brace)) := by
  refine ⟨fun marker => ?_, fun error => ?_,
    fun only marker => closingBelow_eq_ok_iff_nearest hcursor,
    fun only error => closingBelow_eq_error_iff hcursor, closingBelow_none hcursor⟩
  · rw [openingAbove_eq_ok_iff, openingUpFrom?_eq_some_iff_nearest]
    exact and_iff_right hcursor
  · rw [Block.openingAbove_eq_error_iff, Block.Unopened]
    constructor
    · rintro (⟨hlen, -⟩ | ⟨⟨-, hnone⟩, heq⟩)
      · omega
      · exact ⟨hnone, heq⟩
    · rintro ⟨hnone, heq⟩
      exact Or.inr ⟨⟨hcursor, hnone⟩, heq⟩

/-- The brace of a literal is nearer than the `end` below it. -/
theorem searches_nearest_literal :
    let lines : List Text := [['f', ' ', 'd', 'o'], ['a', ' ', '{', '}', '~'],
      ['}', ' ', 'e', 'n', 'd', ' ', '}']]
    1 < lines.length ∧
      NearestOpening lines 1 ⟨⟨1, 2⟩, .brace⟩ ∧
      NearestClosing lines 1 none ⟨⟨1, 3⟩, .brace⟩ ∧
      NearestClosing lines 1 (some .keyword) ⟨⟨2, 2⟩, .keyword⟩ ∧
      NearestClosing lines 2 none ⟨⟨2, 2⟩, .keyword⟩ := by
  intro lines
  have hcursor : 1 < lines.length := by decide
  obtain ⟨hopening, -, hclosing, -⟩ := searches_nearest hcursor
  obtain ⟨-, -, hlast, -⟩ := @searches_nearest lines 2 (by decide)
  exact ⟨hcursor, (hopening _).1 rfl, (hclosing _ _).1 rfl, (hclosing _ _).1 rfl,
    (hlast _ _).1 rfl⟩

end

end Marker

end RubyBlocks
