import Mathlib.Order.Bounds.Defs
import RubyBlocks.Proofs.Cuts
import RubyBlocks.Proofs.Delimiters

/-!
# Expressions, offsets and columns

A column counts characters, and a line is stored as bytes. A search that works on the
bytes has to go back and forth: the column it starts from becomes an offset, an
expression is tried at this offset and at every later one, and the offset at which the
delimiter begins in the first match becomes a column again. This file writes that search
down, with the four expressions for the four delimiters, and shows that it is `find`.

Two things need an argument. An expression matches between characters only, so the
offsets that count are those of the columns (`isBoundary_iff`), and these come in the
order of the columns (`le_of_offsetOf_le`, `lt_of_offsetOf_lt`). Hence the first offset
with a match is that of the first column with one. And a match need not begin with the
delimiter. The expression for an opening brace takes along the character before the
brace and puts the brace in a group, so a match that begins at one column reports the
next. That is the column which `firstColumn` names: it says what counts in a search from
a column, and `matchAt?_expression` says, for all four expressions at once, that it also
names what a match at this column reports.

`find_isLeast` needs neither search. It describes a marker by the characters at its
column and on both sides of it, and `find` answers the least column that fits.
-/

namespace RubyBlocks

namespace Text

/-! ## The offsets of the columns -/

/-- The offset at which each character of a text begins, and the one at which the text
ends. -/
def offsets (text : Text) : List Nat :=
  text.scanl (fun offset c => offset + c.utf8Size) 0

/-- The offset at which a column begins. The end of the text is the last column that has
one. -/
def offset? (text : Text) (column : Nat) : Option Nat :=
  if column = 0 then some 0 else (offsets text)[column]?

/-- The column that begins at an offset, counted on the text that is cut off there. -/
def columnAt? (text : Text) (offset : Nat) : Option Nat :=
  (Span.cut? ⟨0, offset⟩ text).map List.length

theorem foldl_utf8Size (text : Text) (offset : Nat) :
    text.foldl (fun offset c => offset + c.utf8Size) offset =
      offset + byteLength text := by
  induction text generalizing offset with
  | nil => rfl
  | cons c rest ih => rw [List.foldl_cons, ih, byteLength, Nat.add_assoc]

theorem offset?_of_le {text : Text} {column : Nat} (h : column ≤ text.length) :
    offset? text column = some (offsetOf text column) := by
  rw [offset?]
  split <;> rename_i hzero
  · rw [hzero, offsetOf, List.take_zero, byteLength]
  · rw [offsets, List.getElem?_scanl, if_pos h, foldl_utf8Size, Nat.zero_add, offsetOf]

theorem offset?_of_lt {text : Text} {column : Nat} (h : text.length < column) :
    offset? text column = none := by
  rw [offset?, if_neg (by omega), offsets, List.getElem?_scanl, if_neg (by omega)]

theorem columnAt?_offsetOf {text : Text} {column : Nat} (h : column ≤ text.length) :
    columnAt? text (offsetOf text column) = some column := by
  have hcut := Span.cut?_front (text.take column) (text.drop column)
  rw [List.take_append_drop] at hcut
  rw [columnAt?, offsetOf, hcut, Option.map_some, List.length_take_of_le h]

theorem offsetOf_le_byteLength (text : Text) (column : Nat) :
    offsetOf text column ≤ byteLength text := by
  have hlen := byteLength_append (text.take column) (text.drop column)
  rw [List.take_append_drop] at hlen
  rw [offsetOf]
  omega

theorem offsetOf_le (text : Text) {i j : Nat} (h : i ≤ j) :
    offsetOf text i ≤ offsetOf text j := by
  have hoffset := offsetOf_eq_add text h
  omega

theorem offsetOf_lt {text : Text} {i j : Nat} (h : i < j) (hj : j ≤ text.length) :
    offsetOf text i < offsetOf text j := by
  refine Nat.lt_of_lt_of_le ?_ (offsetOf_le text h)
  have hi : i < text.length := by omega
  rw [offsetOf, offsetOf, List.take_add_one, List.getElem?_eq_getElem hi,
    byteLength_append]
  have hpos := text[i].utf8Size_pos
  simp only [Option.toList_some, byteLength]
  omega

theorem le_of_offsetOf_le {text : Text} {i j : Nat} (hi : i ≤ text.length)
    (h : offsetOf text i ≤ offsetOf text j) : i ≤ j := by
  by_contra hlt
  have := offsetOf_lt (Nat.lt_of_not_le hlt) hi
  omega

theorem lt_of_offsetOf_lt {text : Text} {i j : Nat}
    (h : offsetOf text i < offsetOf text j) : i < j := by
  by_contra hle
  have := offsetOf_le text (Nat.le_of_not_lt hle)
  omega

/-- Between two characters of a text, or at one of its ends, is where a column begins. -/
theorem isBoundary_iff {text : Text} {offset : Nat} :
    isBoundary text offset = true ↔ ∃ k ≤ text.length, offset = offsetOf text k := by
  constructor
  · induction text generalizing offset with
    | nil =>
        intro h
        rw [isBoundary, beq_iff_eq] at h
        exact ⟨0, Nat.le_refl _, h⟩
    | cons c rest ih =>
        intro h
        rw [isBoundary, Bool.or_eq_true, Bool.and_eq_true, beq_iff_eq,
          decide_eq_true_eq] at h
        rcases h with rfl | ⟨hsize, hrest⟩
        · exact ⟨0, Nat.zero_le _, rfl⟩
        · obtain ⟨k, hk, heq⟩ := ih hrest
          refine ⟨k + 1, Nat.succ_le_succ hk, ?_⟩
          rw [offsetOf, List.take_succ_cons, byteLength, ← offsetOf]
          omega
  · rintro ⟨k, -, rfl⟩
    have h := isBoundary_append_right (text.drop k) (text.take k) 0
    rwa [List.take_append_drop, Nat.add_zero, isBoundary_zero] at h

end Text

/-- What is searched for: characters and places between characters, one after the other.
A part may be set apart as a group. -/
inductive Expression where
  /-- This character. -/
  | char (c : Char)
  /-- Any character but this one. -/
  | otherThan (c : Char)
  /-- A place with a character of a word on one side of it and none on the other. -/
  | wordEdge
  /-- The end of the text. -/
  | textEnd
  | seq (first second : Expression)
  | group (inner : Expression)
deriving Repr, DecidableEq

namespace Expression

/-- How far a match has come. -/
structure Progress where
  /-- The text up to there, what lies before the match included. -/
  passed : Text
  ahead : Text
  /-- The offset at which the group begins, once it is matched. -/
  group : Option Nat
deriving Repr, DecidableEq

/-- One character further, if it is one that is accepted. -/
def Progress.next? (accepts : Char → Bool) (progress : Progress) : Option Progress :=
  match progress.ahead with
  | [] => none
  | c :: ahead =>
    if accepts c then some ⟨progress.passed ++ [c], ahead, progress.group⟩ else none

/-- Carries a match on over the expression. There is never more than one way to do so. -/
def advance : Expression → Progress → Option Progress
  | char c, progress => progress.next? (· == c)
  | otherThan c, progress => progress.next? (· != c)
  | wordEdge, progress =>
    if progress.passed.getLast?.any Text.isWord = progress.ahead.head?.any Text.isWord then
      none
    else some progress
  | textEnd, progress => if progress.ahead.isEmpty then some progress else none
  | seq first second, progress => (first.advance progress).bind second.advance
  | group inner, progress =>
    (inner.advance progress).map fun reached =>
      ⟨reached.passed, reached.ahead, some (Text.byteLength progress.passed)⟩

/-- The offset that a match at this offset reports: where its group begins, or where it
begins itself if it has none. -/
def matchAt? (e : Expression) (text : Text) (offset : Nat) : Option Nat := do
  let passed ← Span.cut? ⟨0, offset⟩ text
  let ahead ← Span.cut? ⟨offset, Text.byteLength text⟩ text
  (e.advance ⟨passed, ahead, none⟩).map (·.group.getD offset)

/-- What the first match at or behind an offset reports. -/
def search? (e : Expression) (text : Text) (least : Nat) : Option Nat :=
  ((List.range' least (Text.byteLength text + 1 - least)).find? fun offset =>
    (e.matchAt? text offset).isSome).bind (e.matchAt? text)

/-- A word, and what comes behind it. -/
def spelled : Text → Expression → Expression
  | [], e => e
  | c :: word, e => seq (char c) (spelled word e)

/-! ## Where an expression matches -/

theorem matchAt?_append (e : Expression) (front rest : Text) :
    e.matchAt? (front ++ rest) (Text.byteLength front) =
      (e.advance ⟨front, rest, none⟩).map (·.group.getD (Text.byteLength front)) := by
  rw [matchAt?, Span.cut?_front, Span.cut?_back]
  rfl

/-- An expression matches nowhere inside of a character. -/
theorem exists_of_matchAt? {e : Expression} {text : Text} {offset place : Nat}
    (h : e.matchAt? text offset = some place) :
    ∃ k ≤ text.length, offset = Text.offsetOf text k := by
  rw [matchAt?] at h
  obtain ⟨passed, hcut, -⟩ := Option.bind_eq_some_iff.1 h
  rw [Span.cut?] at hcut
  split at hcut <;> rename_i hfits
  · exact Text.isBoundary_iff.1 hfits.stop_boundary
  · cases hcut

section

variable {e : Expression} {text : Text} {start : Nat}

/-- The first offset with a match is the offset of the first column with one. -/
theorem search?_eq_some {k place : Nat} (hstart : start ≤ k) (hk : k ≤ text.length)
    (hmatch : e.matchAt? text (Text.offsetOf text k) = some place)
    (hmin : ∀ j, start ≤ j → j < k → e.matchAt? text (Text.offsetOf text j) = none) :
    e.search? text (Text.offsetOf text start) = some place := by
  have hle := Text.offsetOf_le text hstart
  have hlen := Text.offsetOf_le_byteLength text k
  have hfirst : (List.range' (Text.offsetOf text start)
      (Text.byteLength text + 1 - Text.offsetOf text start)).find?
        (fun offset => (e.matchAt? text offset).isSome) =
          some (Text.offsetOf text k) := by
    refine List.find?_range'_eq_some.2 ⟨by rw [hmatch]; rfl,
      List.mem_range'_1.2 ⟨hle, by omega⟩, fun offset hoffset hlt => ?_⟩
    rw [Bool.not_eq_true', Option.isSome_eq_false_iff, Option.isNone_iff_eq_none]
    cases hearlier : e.matchAt? text offset with
    | none => rfl
    | some other =>
        -- The match begins at a column, and that column is before the first.
        obtain ⟨j, -, rfl⟩ := exists_of_matchAt? hearlier
        have hstartj := Text.le_of_offsetOf_le (Nat.le_trans hstart hk) hoffset
        rw [hmin j hstartj (Text.lt_of_offsetOf_lt hlt)] at hearlier
        cases hearlier
  rw [search?, hfirst, Option.bind_some, hmatch]

theorem search?_eq_none (hstart : start ≤ text.length)
    (hnone : ∀ k, start ≤ k → k ≤ text.length →
      e.matchAt? text (Text.offsetOf text k) = none) :
    e.search? text (Text.offsetOf text start) = none := by
  rw [search?, Option.bind_eq_none_iff]
  intro offset hfirst
  obtain ⟨-, hmem, -⟩ := List.find?_range'_eq_some.1 hfirst
  cases hmatch : e.matchAt? text offset with
  | none => rfl
  | some place =>
      obtain ⟨k, hk, rfl⟩ := exists_of_matchAt? hmatch
      have hstartk := Text.le_of_offsetOf_le hstart (List.mem_range'_1.1 hmem).1
      rw [hnone k hstartk hk] at hmatch
      cases hmatch

end

theorem advance_spelled (word : Text) (e : Expression) (group : Option Nat) :
    ∀ passed ahead : Text, (spelled word e).advance ⟨passed, ahead, group⟩ =
      if word.isPrefixOf ahead then
        e.advance ⟨passed ++ word, ahead.drop word.length, group⟩
      else none := by
  induction word with
  | nil => simp [spelled]
  | cons c word ih =>
      intro passed ahead
      rw [spelled, advance, advance, Progress.next?]
      cases ahead with
      | nil => rfl
      | cons d ahead =>
          by_cases hc : d = c
          · subst hc
            simp [ih]
          · simp [hc, Ne.symm hc]

end Expression

namespace Marker

/-! ## The four expressions -/

/-- What is searched for when a marker is. -/
def expression : Side → Style → Expression
  | side, .keyword => .seq .wordEdge (.spelled side.keyword .wordEdge)
  | .opening, .brace => .seq (.otherThan '#') (.group (.char '{'))
  | .closing, .brace => .seq (.char '}') .textEnd

instance (side : Side) (style : Style) (line : Text) (column : Nat) :
    Decidable (StandsIn side style line column) :=
  inferInstanceAs (Decidable (_ = true))

theorem any_head?_keyword (side : Side) (back : Text) :
    (side.keyword ++ back).head?.any Text.isWord = true := by
  have hword := fun c => @isWord_of_mem_keyword side c
  cases side <;> exact hword _ List.mem_cons_self

theorem any_getLast?_keyword (front : Text) (side : Side) :
    (front ++ side.keyword).getLast?.any Text.isWord = true := by
  have hword := fun c => @isWord_of_mem_keyword side c
  rw [List.getLast?_append]
  cases side
  · exact hword 'o' (by simp [Side.keyword])
  · exact hword 'd' (by simp [Side.keyword])

theorem advance_keyword (side : Side) (front rest : Text) :
    (expression side .keyword).advance ⟨front, rest, none⟩ =
      if standsAt side .keyword front.getLast? rest then
        some ⟨front ++ side.keyword, rest.drop side.keyword.length, none⟩
      else none := by
  rw [expression, Expression.advance, Expression.advance, standsAt]
  cases hspelled : side.keyword.isPrefixOf rest with
  | false =>
      split
      · rfl
      · rw [Option.bind_some, Expression.advance_spelled, hspelled]
        rfl
  | true =>
      -- The word brings one side of either edge along, so the other side must be free.
      obtain ⟨back, rfl⟩ := List.isPrefixOf_iff_prefix.1 hspelled
      rw [any_head?_keyword, List.drop_left]
      cases front.getLast?.any Text.isWord with
      | true => rfl
      | false =>
          rw [if_neg (by simp), Option.bind_some, Expression.advance_spelled, hspelled,
            if_pos rfl, List.drop_left, Expression.advance, any_getLast?_keyword]
          cases back.head?.any Text.isWord <;> rfl

theorem advance_closing_brace (front rest : Text) :
    (expression .closing .brace).advance ⟨front, rest, none⟩ =
      if standsAt .closing .brace front.getLast? rest then
        some ⟨front ++ ['}'], [], none⟩
      else none := by
  rw [expression, Expression.advance, Expression.advance, Expression.Progress.next?,
    standsAt]
  cases rest with
  | nil => rfl
  | cons c rest =>
      by_cases hc : c = '}'
      · cases rest <;> simp [hc, Expression.advance]
      · simp [hc]

theorem advance_opening_brace (front : Text) (c : Char) (rest : Text) :
    (expression .opening .brace).advance ⟨front, c :: rest, none⟩ =
      if standsAt .opening .brace (some c) rest then
        some ⟨front ++ [c] ++ ['{'], rest.tail, some (Text.byteLength (front ++ [c]))⟩
      else none := by
  rw [expression, Expression.advance, Expression.advance, Expression.Progress.next?,
    standsAt]
  cases rest with
  | nil => by_cases hc : c = '#' <;> simp [hc, Expression.advance, Expression.Progress.next?]
  | cons d rest =>
      by_cases hc : c = '#' <;> by_cases hd : d = '{' <;>
        simp [hc, hd, Expression.advance, Expression.Progress.next?]

/-- An expression matches at a column if a marker stands at the first column that counts
in a search from there, and it reports the offset of that one. -/
theorem matchAt?_expression (side : Side) (style : Style) {line : Text} {k : Nat}
    (hk : k ≤ line.length) :
    (expression side style).matchAt? line (Text.offsetOf line k) =
      if StandsIn side style line (firstColumn side style k) then
        some (Text.offsetOf line (firstColumn side style k))
      else none := by
  obtain ⟨front, rest, rfl, rfl⟩ :
      ∃ front rest, line = front ++ rest ∧ front.length = k :=
    ⟨_, _, (List.take_append_drop k line).symm, List.length_take_of_le hk⟩
  rw [Text.offsetOf, List.take_left, Expression.matchAt?_append]
  cases style with
  | keyword =>
      have hfirst : firstColumn side .keyword front.length = front.length := by
        cases side <;> rfl
      rw [hfirst, advance_keyword, Text.offsetOf, List.take_left]
      simp only [standsIn_append_length]
      split <;> rfl
  | brace =>
      cases side with
      | closing =>
          rw [firstColumn, advance_closing_brace, Text.offsetOf, List.take_left]
          · simp only [standsIn_append_length]
            split <;> rfl
          · simp
      | opening =>
          rw [firstColumn]
          cases rest with
          | nil =>
              rw [if_neg fun hs => absurd hs.lt_length (by simp)]
              rfl
          | cons c rest =>
              have hcut : front ++ c :: rest = front ++ [c] ++ rest := by simp
              have hlen : front.length + 1 = (front ++ [c]).length := by simp
              rw [advance_opening_brace, hcut, hlen, Text.offsetOf, List.take_left]
              simp only [standsIn_append_length, List.getLast?_concat]
              split <;> rfl

/-! ## The search by offsets -/

/-- `find` on the bytes of a line. There is no answer at all where the expression would be
tried behind the end of the line or the line be cut inside of a character. -/
def findByOffset (side : Side) (style : Style) (line : Text) (start : Nat) :
    Option (Option Nat) :=
  match Text.offset? line start with
  | none => some none
  | some least =>
    if Text.byteLength line < least then none
    else
      match (expression side style).search? line least with
      | none => some none
      | some place => (Text.columnAt? line place).map some

theorem le_firstColumn (side : Side) (style : Style) (start : Nat) :
    start ≤ firstColumn side style start := by
  cases style <;> cases side <;> simp [firstColumn]

theorem firstColumn_le_iff {side : Side} {style : Style} {start k : Nat} :
    firstColumn side style start ≤ firstColumn side style k ↔ start ≤ k := by
  cases style <;> cases side <;> simp [firstColumn]

/-- Every column that counts is the first that does, in a search from some column. -/
theorem exists_firstColumn_eq {side : Side} {style : Style} {start column : Nat}
    (h : firstColumn side style start ≤ column) :
    ∃ k, start ≤ k ∧ firstColumn side style k = column := by
  cases style <;> cases side
  case brace.opening =>
    obtain ⟨n, rfl⟩ := Nat.exists_eq_add_of_le h
    exact ⟨start + n, Nat.le_add_right _ _, Nat.add_right_comm _ _ _⟩
  all_goals exact ⟨column, h, rfl⟩

theorem find_eq_none_of_length_le {side : Side} {style : Style} {line : Text}
    {start : Nat} (h : line.length ≤ start) : find side style line start = none := by
  refine find_eq_none_iff.2 fun k hk hstands => ?_
  have hstart := le_firstColumn side style start
  have hlt := hstands.lt_length
  omega

theorem search?_expression (side : Side) (style : Style) {line : Text} {start : Nat}
    (hstart : start ≤ line.length) :
    (expression side style).search? line (Text.offsetOf line start) =
      (find side style line start).map (Text.offsetOf line) := by
  cases hfind : find side style line start with
  | none =>
      refine Expression.search?_eq_none hstart fun k hk hlen => ?_
      rw [matchAt?_expression side style hlen,
        if_neg (find_eq_none_iff.1 hfind _ (firstColumn_le_iff.2 hk))]
  | some column =>
      obtain ⟨hfirst, hstands, hmin⟩ := find_eq_some_iff.1 hfind
      obtain ⟨k, hk, rfl⟩ := exists_firstColumn_eq hfirst
      have hlen : k ≤ line.length := by
        have hle := le_firstColumn side style k
        have hlt := hstands.lt_length
        omega
      refine Expression.search?_eq_some hk hlen ?_ fun j hj hjk => ?_
      · rw [matchAt?_expression side style hlen, if_pos hstands]
      · have hearlier : firstColumn side style j < firstColumn side style k := by
          rw [Nat.lt_iff_le_and_not_ge, firstColumn_le_iff, firstColumn_le_iff]
          omega
        rw [matchAt?_expression side style (by omega),
          if_neg (hmin _ (firstColumn_le_iff.2 hj) hearlier)]

theorem findByOffset_eq (side : Side) (style : Style) (line : Text) (start : Nat) :
    findByOffset side style line start = some (find side style line start) := by
  rw [findByOffset]
  rcases Nat.lt_or_ge line.length start with hlt | hle
  · rw [Text.offset?_of_lt hlt, find_eq_none_of_length_le (Nat.le_of_lt hlt)]
  · have hend := Text.offsetOf_le_byteLength line start
    simp only [Text.offset?_of_le hle, if_neg (Nat.not_lt.2 hend),
      search?_expression side style hle]
    cases hfind : find side style line start with
    | none => rfl
    | some column =>
        have hlt := (find_eq_some_iff.1 hfind).2.1.lt_length
        simp only [Option.map_some, Text.columnAt?_offsetOf (Nat.le_of_lt hlt)]

example : (expression .opening .brace).search? ['é', '.', 'm', ' ', '{', '}'] 0 = some 5 ∧
    findByOffset .opening .brace ['é', '.', 'm', ' ', '{', '}'] 0 = some (some 4) := by
  decide +kernel

/-! ## What is found -/

/-- A marker stands at this column, and a search from column `start` may answer it. -/
def Eligible (side : Side) (style : Style) (text : Text) (start column : Nat) : Prop :=
  match style, side with
  | .keyword, .opening => start ≤ column ∧ WholeWordAt ['d', 'o'] text column
  | .keyword, .closing => start ≤ column ∧ WholeWordAt ['e', 'n', 'd'] text column
  | .brace, .opening =>
    start + 1 ≤ column ∧ text[column]? = some '{' ∧ text[column - 1]? ≠ some '#'
  | .brace, .closing => start ≤ column ∧ text[column]? = some '}' ∧ column + 1 = text.length

theorem standsIn_opening_brace_iff {text : Text} {k : Nat} (hpos : 0 < k) :
    StandsIn .opening .brace text k ↔ text[k]? = some '{' ∧ text[k - 1]? ≠ some '#' := by
  simp only [StandsIn, standsAt, List.head?_drop, Bool.and_eq_true, beq_iff_eq]
  refine and_congr_right fun hbrace => ?_
  obtain ⟨hk, -⟩ := List.getElem?_eq_some_iff.1 hbrace
  rw [List.getLast?_take, if_neg (by omega), List.getElem?_eq_getElem (by omega),
    Option.some_or]
  simp

theorem drop_eq_singleton_iff {text : Text} {c : Char} {k : Nat} :
    text.drop k = [c] ↔ text[k]? = some c ∧ k + 1 = text.length := by
  constructor
  · intro h
    have hlen := congrArg List.length h
    rw [List.length_drop, List.length_singleton] at hlen
    exact ⟨by rw [← List.head?_drop, h, List.head?_cons], by omega⟩
  · rintro ⟨hc, hlen⟩
    obtain ⟨hk, rfl⟩ := List.getElem?_eq_some_iff.1 hc
    rw [List.drop_eq_getElem_cons hk, List.drop_eq_nil_of_le (by omega)]

theorem eligible_iff {side : Side} {style : Style} {line : Text} {start column : Nat} :
    Eligible side style line start column ↔
      firstColumn side style start ≤ column ∧ StandsIn side style line column := by
  cases style with
  | keyword =>
      cases side with
      | opening =>
          exact and_congr_right fun _ => (@standsIn_keyword_iff .opening line column).symm
      | closing =>
          exact and_congr_right fun _ => (@standsIn_keyword_iff .closing line column).symm
  | brace =>
      cases side with
      | opening =>
          exact and_congr_right fun hle =>
            (standsIn_opening_brace_iff (Nat.lt_of_lt_of_le (Nat.succ_pos _) hle)).symm
      | closing =>
          exact and_congr_right fun _ =>
            (standsIn_closing_brace_iff.trans drop_eq_singleton_iff).symm

/-- A search answers the least eligible column, and nothing if there is none. From the end
of the line on there is none. The search on the bytes always has the same answer. -/
theorem find_isLeast (side : Side) (style : Style) (line : Text) (start : Nat) :
    (∀ column, find side style line start = some column ↔
      IsLeast {k | Eligible side style line start k} column) ∧
    (find side style line start = none ↔ ∀ k, ¬ Eligible side style line start k) ∧
    (∀ n, find side style line (line.length + n) = none) ∧
    findByOffset side style line start = some (find side style line start) := by
  refine ⟨fun column => ?_, ?_, fun n => find_eq_none_of_length_le (Nat.le_add_right _ _),
    findByOffset_eq side style line start⟩
  · rw [find_eq_some_iff]
    constructor
    · rintro ⟨hfirst, hstands, hmin⟩
      refine ⟨eligible_iff.2 ⟨hfirst, hstands⟩, fun k hk => Nat.le_of_not_lt fun hlt => ?_⟩
      obtain ⟨hfirstk, hstandsk⟩ := eligible_iff.1 hk
      exact hmin k hfirstk hlt hstandsk
    · rintro ⟨heligible, hleast⟩
      obtain ⟨hfirst, hstands⟩ := eligible_iff.1 heligible
      exact ⟨hfirst, hstands, fun k hk hlt hstandsk =>
        Nat.not_le_of_lt hlt (hleast (eligible_iff.2 ⟨hk, hstandsk⟩))⟩
  · rw [find_eq_none_iff]
    exact forall_congr' fun k => by rw [eligible_iff, not_and]

end Marker

end RubyBlocks
