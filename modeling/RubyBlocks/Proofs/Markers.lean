import RubyBlocks.Block.Marker

/-!
# Where markers stand

`find` walks a line once and carries the character to its left along. Everything
later proofs want to know about it is said without that walk: the column it
answers is the least one, at or after the first column that counts, where a
marker stands. `StandsIn` is that last notion on whole lines, and after
`find_eq_some_iff` and `find_eq_none_iff` nobody opens `findFrom` again.

The rest of the file is about `StandsIn` alone. Braces are looked up by the
characters next to them. A keyword is a whole word, and the one fact that is used
over and over is `standsIn_separated`: a character that belongs to no word cuts a
line into two pieces that can be searched apart, because no keyword reaches over
it and it looks like the end of the line from both sides.
-/

namespace RubyBlocks

namespace Marker

/-- A marker stands at this column of the line. -/
def StandsIn (side : Side) (style : Style) (line : Text) (column : Nat) : Prop :=
  standsAt side style (line.take column).getLast? (line.drop column) = true

theorem standsIn_append_length {side : Side} {style : Style}
    {front rest : Text} :
    StandsIn side style (front ++ rest) front.length ↔
      standsAt side style front.getLast? rest = true := by
  rw [StandsIn, List.take_left, List.drop_left]

/-- Nothing stands at or behind the end of a line. -/
theorem StandsIn.lt_length {side : Side} {style : Style} {line : Text}
    {column : Nat} (h : StandsIn side style line column) :
    column < line.length := by
  rcases Nat.lt_or_ge column line.length with hlt | hge
  · exact hlt
  · rw [StandsIn, List.drop_eq_nil_of_le hge] at h
    cases style <;> cases side <;> simp [standsAt, Side.keyword] at h

/-! ## The search

The walk is at the column that ends `front`, and `rest` is what is left. Both
lemmas are read along `rest`: one more character moves to the end of `front`. -/

theorem findFrom_eq_none {side : Side} {style : Style} {least : Nat} :
    ∀ rest front : Text,
      findFrom side style least front.getLast? front.length rest = none →
        ∀ k, least ≤ k → front.length ≤ k →
          ¬ StandsIn side style (front ++ rest) k := by
  intro rest
  induction rest with
  | nil =>
      intro front _ k _ hk hs
      have hlt := hs.lt_length
      rw [List.append_nil] at hlt
      omega
  | cons c rest ih =>
      intro front h k hl hk hs
      have hstep := ih (front ++ [c])
      rw [List.getLast?_concat, List.length_append, List.length_singleton,
        List.append_assoc, List.singleton_append] at hstep
      rw [findFrom] at h
      split at h <;> rename_i hc
      · exact absurd h (by simp)
      · rcases Nat.lt_or_eq_of_le hk with hlt | rfl
        · exact hstep h k hl hlt hs
        · rw [Bool.and_eq_true, decide_eq_true_eq] at hc
          exact hc ⟨hl, standsIn_append_length.1 hs⟩

theorem findFrom_eq_some {side : Side} {style : Style} {least k : Nat} :
    ∀ rest front : Text,
      findFrom side style least front.getLast? front.length rest = some k →
        least ≤ k ∧ front.length ≤ k ∧ StandsIn side style (front ++ rest) k ∧
          ∀ j, least ≤ j → front.length ≤ j → j < k →
            ¬ StandsIn side style (front ++ rest) j := by
  intro rest
  induction rest with
  | nil =>
      intro front h
      rw [findFrom] at h
      split at h <;> rename_i hc
      · rw [Bool.and_eq_true, decide_eq_true_eq] at hc
        injection h with h
        subst h
        exact ⟨hc.1, Nat.le_refl _, standsIn_append_length.2 hc.2,
          fun j _ h₁ h₂ => by omega⟩
      · exact absurd h (by simp)
  | cons c rest ih =>
      intro front h
      have hstep := ih (front ++ [c])
      rw [List.getLast?_concat, List.length_append, List.length_singleton,
        List.append_assoc, List.singleton_append] at hstep
      rw [findFrom] at h
      split at h <;> rename_i hc
      · rw [Bool.and_eq_true, decide_eq_true_eq] at hc
        injection h with h
        subst h
        exact ⟨hc.1, Nat.le_refl _, standsIn_append_length.2 hc.2,
          fun j _ h₁ h₂ => by omega⟩
      · obtain ⟨hl, hk, hs, hmin⟩ := hstep h
        refine ⟨hl, by omega, hs, fun j hj hfront hjk hsj => ?_⟩
        rcases Nat.lt_or_eq_of_le hfront with hlt | rfl
        · exact hmin j hj hlt hjk hsj
        · rw [Bool.and_eq_true, decide_eq_true_eq] at hc
          exact hc ⟨hj, standsIn_append_length.1 hsj⟩

/-- A search fails exactly when no marker stands at a column that counts. -/
theorem find_eq_none_iff {side : Side} {style : Style} {line : Text}
    {start : Nat} :
    find side style line start = none ↔
      ∀ k, firstColumn side style start ≤ k → ¬ StandsIn side style line k := by
  constructor
  · intro h k hk
    rw [find] at h
    exact findFrom_eq_none line [] h k hk (Nat.zero_le _)
  · intro h
    cases hf : find side style line start with
    | none => rfl
    | some i =>
        rw [find] at hf
        obtain ⟨hl, -, hs, -⟩ := findFrom_eq_some line [] hf
        exact absurd hs (h i hl)

/-- A search answers the least column that counts and has a marker. -/
theorem find_eq_some_iff {side : Side} {style : Style} {line : Text}
    {start k : Nat} :
    find side style line start = some k ↔
      firstColumn side style start ≤ k ∧ StandsIn side style line k ∧
        ∀ j, firstColumn side style start ≤ j → j < k →
          ¬ StandsIn side style line j := by
  constructor
  · intro h
    rw [find] at h
    obtain ⟨hl, -, hs, hmin⟩ := findFrom_eq_some line [] h
    exact ⟨hl, hs, fun j hj hjk => hmin j hj (Nat.zero_le _) hjk⟩
  · rintro ⟨hl, hs, hmin⟩
    cases hf : find side style line start with
    | none => exact absurd hs (find_eq_none_iff.1 hf k hl)
    | some i =>
        rw [find] at hf
        obtain ⟨hil, -, his, himin⟩ := findFrom_eq_some line [] hf
        have h₁ : ¬ i < k := fun hik => hmin i hil hik his
        have h₂ : ¬ k < i := fun hki => himin k hl (Nat.zero_le _) hki hs
        exact congrArg some (by omega)

theorem find_congr {side : Side} {style : Style} {line line' : Text} {start : Nat}
    (h : ∀ k, StandsIn side style line k ↔ StandsIn side style line' k) :
    find side style line start = find side style line' start := by
  cases hf : find side style line' start with
  | none =>
      exact find_eq_none_iff.2 fun k hk hs =>
        find_eq_none_iff.1 hf k hk ((h k).1 hs)
  | some i =>
      obtain ⟨hl, hs, hmin⟩ := find_eq_some_iff.1 hf
      exact find_eq_some_iff.2
        ⟨hl, (h i).2 hs, fun j hj hji hsj => hmin j hj hji ((h j).1 hsj)⟩

/-! ## Braces -/

theorem standsIn_opening_brace_append {front back : Text} {k : Nat}
    (hk : k < front.length) :
    StandsIn .opening .brace (front ++ back) k ↔
      StandsIn .opening .brace front k := by
  simp only [StandsIn, standsAt, List.head?_drop]
  rw [List.take_append_of_le_length (Nat.le_of_lt hk),
    List.getElem?_append_left hk]

/-- Behind a text without an opening brace of its own, a brace is the first. -/
theorem find_opening_brace_append {front back : Text}
    (hfree : find .opening .brace front 0 = none) (hne : front ≠ [])
    (hhash : front.getLast? ≠ some '#') :
    find .opening .brace (front ++ '{' :: back) 0 = some front.length := by
  have hpos : 0 < front.length := List.length_pos_iff.2 hne
  refine find_eq_some_iff.2 ⟨hpos, ?_, fun j hj hjk hs => ?_⟩
  · rw [standsIn_append_length]
    rw [List.getLast?_eq_some_getLast hne] at hhash ⊢
    simpa [standsAt] using hhash
  · exact find_eq_none_iff.1 hfree j hj
      ((standsIn_opening_brace_append hjk).1 hs)

theorem standsIn_closing_brace_iff {line : Text} {k : Nat} :
    StandsIn .closing .brace line k ↔ line.drop k = ['}'] := by
  simp only [StandsIn, standsAt, beq_iff_eq]

theorem find_closing_brace_concat {front : Text} {start : Nat}
    (hstart : start ≤ front.length) :
    find .closing .brace (front ++ ['}']) start = some front.length := by
  refine find_eq_some_iff.2 ⟨hstart, ?_, fun j _ hjk hs => ?_⟩
  · rw [standsIn_closing_brace_iff, List.drop_left]
  · have hlen := congrArg List.length (standsIn_closing_brace_iff.1 hs)
    rw [List.length_drop, List.length_append] at hlen
    simp only [List.length_singleton] at hlen
    omega

theorem find_closing_brace_eq_none {line : Text} {start : Nat}
    (h : line.getLast? ≠ some '}') : find .closing .brace line start = none := by
  refine find_eq_none_iff.2 fun k _ hs => h ?_
  rw [← List.take_append_drop k line, standsIn_closing_brace_iff.1 hs,
    List.getLast?_concat]

/-! ## Keywords

A whole word is written out as what stands before it, the word and what stands
behind it, so that a line cut elsewhere can be compared with it piece by piece. -/

theorem isWord_of_mem_keyword {side : Side} {c : Char}
    (h : c ∈ side.keyword) : Text.isWord c = true := by
  have hall : ∀ side : Side, side.keyword.all Text.isWord = true := by
    intro side
    cases side <;> decide +kernel
  exact List.all_eq_true.1 (hall side) c h

theorem standsIn_keyword_iff {side : Side} {line : Text} {k : Nat} :
    StandsIn side .keyword line k ↔
      ∃ front back, line = front ++ (side.keyword ++ back) ∧
        front.length = k ∧ front.getLast?.any Text.isWord = false ∧
        back.head?.any Text.isWord = false := by
  constructor
  · intro hs
    have hk := hs.lt_length
    simp only [StandsIn, standsAt, Bool.and_eq_true, Bool.not_eq_true',
      List.isPrefixOf_iff_prefix] at hs
    obtain ⟨⟨⟨back, hback⟩, hfront⟩, hrest⟩ := hs
    rw [← hback, List.drop_left] at hrest
    refine ⟨line.take k, back, ?_, List.length_take_of_le (by omega), hfront,
      hrest⟩
    rw [hback, List.take_append_drop]
  · rintro ⟨front, back, rfl, rfl, hfront, hback⟩
    rw [standsIn_append_length]
    simp only [standsAt, hfront, List.drop_left, hback, Bool.not_false,
      Bool.and_true, List.isPrefixOf_iff_prefix]
    exact List.prefix_append _ _

theorem getLast?_of_standsIn {side : Side} {front rest : Text}
    (h : StandsIn side .keyword (front ++ rest) front.length) :
    front.getLast?.any Text.isWord = false := by
  rw [standsIn_append_length] at h
  simp only [standsAt, Bool.and_eq_true, Bool.not_eq_true'] at h
  exact h.1.2

/-- Seen from the right, a character of no word is the end of the text. -/
theorem any_getLast?_separated {left right : Text} {c : Char}
    (hc : Text.isWord c = false) :
    (left ++ c :: right).getLast?.any Text.isWord =
      right.getLast?.any Text.isWord := by
  rw [List.getLast?_append, List.getLast?_cons]
  cases right.getLast? with
  | none => simp [hc]
  | some d => simp

/-- Seen from the left, likewise. -/
theorem any_head?_separated {left right : Text} {c : Char}
    (hc : Text.isWord c = false) :
    (left ++ c :: right).head?.any Text.isWord = left.head?.any Text.isWord := by
  cases left with
  | nil => simp [hc]
  | cons d left => simp

theorem find_keyword_of_standsIn {side : Side} {line : Text} {k : Nat}
    (h : StandsIn side .keyword line k) : find side .keyword line k = some k :=
  find_eq_some_iff.2 ⟨Nat.le_refl _, h, fun j (hj : k ≤ j) hjk => by omega⟩

theorem find_keyword_of_not_isWord {side : Side} {text : Text} {start : Nat}
    (h : ∀ c ∈ text, Text.isWord c = false) :
    find side .keyword text start = none := by
  refine find_eq_none_iff.2 fun k _ hs => ?_
  obtain ⟨front, back, rfl, -⟩ := standsIn_keyword_iff.1 hs
  obtain ⟨c, hc⟩ : ∃ c, c ∈ side.keyword := by
    cases side <;> exact ⟨_, List.mem_cons_self⟩
  have hword := h c (by simp [hc])
  rw [isWord_of_mem_keyword hc] at hword
  exact absurd hword (by simp)

/-- A character of no word cuts a line into pieces with keywords of their own. -/
theorem standsIn_separated {side : Side} {left right : Text} {c : Char}
    (hc : Text.isWord c = false) {k : Nat} :
    StandsIn side .keyword (left ++ c :: right) k ↔
      StandsIn side .keyword left k ∨
        ∃ j, k = left.length + 1 + j ∧ StandsIn side .keyword right j := by
  have hmem : c ∉ side.keyword := by
    intro h
    rw [isWord_of_mem_keyword h] at hc
    exact absurd hc (by simp)
  constructor
  · intro hs
    obtain ⟨front, back, heq, rfl, hfront, hback⟩ := standsIn_keyword_iff.1 hs
    rcases List.append_eq_append_iff.1 heq with ⟨t, rfl, ht⟩ | ⟨t, rfl, ht⟩
    · -- The word starts behind `left`, and not with `c`.
      cases t with
      | nil =>
          exfalso
          cases side <;> cases ht <;> exact hmem (by simp [Side.keyword])
      | cons d t =>
          rw [List.cons_append] at ht
          obtain ⟨rfl, rfl⟩ := List.cons.inj ht
          rw [any_getLast?_separated hc] at hfront
          refine Or.inr ⟨t.length, ?_, ?_⟩
          · rw [List.length_append, List.length_cons]; omega
          · exact standsIn_keyword_iff.2 ⟨t, back, rfl, rfl, hfront, hback⟩
    · -- The word starts in `left`; reaching further, it would contain `c`.
      left
      rcases List.append_eq_append_iff.1 ht with ⟨u, rfl, hu⟩ | ⟨u, hu, hcons⟩
      · rw [hu, any_head?_separated hc] at hback
        exact standsIn_keyword_iff.2 ⟨front, u, rfl, rfl, hfront, hback⟩
      · cases u with
        | nil =>
            rw [List.append_nil] at hu
            rw [← hu]
            exact standsIn_keyword_iff.2
              ⟨front, [], by rw [List.append_nil], rfl, hfront, rfl⟩
        | cons d u =>
            rw [List.cons_append] at hcons
            obtain ⟨rfl, -⟩ := List.cons.inj hcons
            rw [hu] at hmem
            exact absurd (by simp) hmem
  · rintro (hs | ⟨j, rfl, hs⟩)
    · obtain ⟨front, back, rfl, rfl, hfront, hback⟩ := standsIn_keyword_iff.1 hs
      refine standsIn_keyword_iff.2
        ⟨front, back ++ c :: right, ?_, rfl, hfront, ?_⟩
      · simp only [List.append_assoc]
      · rw [any_head?_separated hc]; exact hback
    · obtain ⟨front, back, rfl, rfl, hfront, hback⟩ := standsIn_keyword_iff.1 hs
      refine standsIn_keyword_iff.2 ⟨left ++ c :: front, back, ?_, ?_, ?_, hback⟩
      · simp only [List.append_assoc, List.cons_append]
      · rw [List.length_append, List.length_cons]; omega
      · rw [any_getLast?_separated hc]; exact hfront

/-- The first keyword of a cut line is that of its left piece or, failing that,
of its right one. -/
theorem find_keyword_separated {side : Side} {left right : Text} {c : Char}
    (hc : Text.isWord c = false) :
    find side .keyword (left ++ c :: right) 0 =
      (find side .keyword left 0).or
        ((find side .keyword right 0).map (left.length + 1 + ·)) := by
  cases hl : find side .keyword left 0 with
  | some k =>
      obtain ⟨-, hs, hmin⟩ := find_eq_some_iff.1 hl
      refine find_eq_some_iff.2
        ⟨Nat.zero_le _, (standsIn_separated hc).2 (Or.inl hs), ?_⟩
      intro j hj hjk hsj
      rcases (standsIn_separated hc).1 hsj with h | ⟨i, rfl, -⟩
      · exact hmin j hj hjk h
      · have := hs.lt_length; omega
  | none =>
      have hleft := find_eq_none_iff.1 hl
      cases hr : find side .keyword right 0 with
      | none =>
          refine find_eq_none_iff.2 fun k _ hs => ?_
          rcases (standsIn_separated hc).1 hs with h | ⟨i, -, h⟩
          · exact hleft k (Nat.zero_le _) h
          · exact find_eq_none_iff.1 hr i (Nat.zero_le _) h
      | some i =>
          obtain ⟨-, hs, hmin⟩ := find_eq_some_iff.1 hr
          refine find_eq_some_iff.2
            ⟨Nat.zero_le _, (standsIn_separated hc).2 (Or.inr ⟨i, rfl, hs⟩), ?_⟩
          intro j _ (hjk : j < left.length + 1 + i) hsj
          rcases (standsIn_separated hc).1 hsj with h | ⟨n, rfl, h⟩
          · exact hleft j (Nat.zero_le _) h
          · exact hmin n (Nat.zero_le _) (by omega) h

theorem find_keyword_separated_eq_none_iff {side : Side} {left right : Text}
    {c : Char} (hc : Text.isWord c = false) :
    find side .keyword (left ++ c :: right) 0 = none ↔
      find side .keyword left 0 = none ∧ find side .keyword right 0 = none := by
  rw [find_keyword_separated hc, Option.or_eq_none_iff, Option.map_eq_none_iff]

/-- Behind a text without keywords, a word of its own is the first. -/
theorem find_keyword_append {side : Side} {front back : Text}
    (hfree : find side .keyword front 0 = none)
    (hfront : front.getLast?.any Text.isWord = false)
    (hback : back.head?.any Text.isWord = false) :
    find side .keyword (front ++ (side.keyword ++ back)) 0 =
      some front.length := by
  refine find_eq_some_iff.2 ⟨Nat.zero_le _, standsIn_keyword_iff.2
    ⟨front, back, rfl, rfl, hfront, hback⟩, fun j _ hj hs => ?_⟩
  rcases List.eq_nil_or_concat front with rfl | ⟨init, c, rfl⟩
  · exact absurd hj (Nat.not_lt_zero _)
  · rw [List.concat_eq_append] at hfree hfront hs hj
    have hc : Text.isWord c = false := by simpa using hfront
    rw [List.append_assoc, List.singleton_append] at hs
    rw [find_keyword_separated_eq_none_iff hc] at hfree
    rw [List.length_append, List.length_singleton] at hj
    rcases (standsIn_separated hc).1 hs with h | ⟨i, rfl, -⟩
    · exact find_eq_none_iff.1 hfree.1 j (Nat.zero_le _) h
    · omega

/-- And nothing stands before the first. -/
theorem find_keyword_front {side : Side} {front back : Text}
    (h : find side .keyword (front ++ (side.keyword ++ back)) 0 =
      some front.length) : find side .keyword front 0 = none := by
  obtain ⟨-, hs, hmin⟩ := find_eq_some_iff.1 h
  rcases List.eq_nil_or_concat front with rfl | ⟨init, c, rfl⟩
  · cases side <;> rfl
  · rw [List.concat_eq_append] at hs hmin ⊢
    have hc : Text.isWord c = false := by
      simpa using getLast?_of_standsIn hs
    refine find_eq_none_iff.2 fun k _ hk => ?_
    have hlt := hk.lt_length
    rcases (standsIn_separated hc).1 hk with hleft | ⟨i, rfl, hright⟩
    · refine hmin k (Nat.zero_le _) hlt ?_
      rw [List.append_assoc, List.singleton_append]
      exact (standsIn_separated hc).2 (Or.inl hleft)
    · exact absurd hright.lt_length (Nat.not_lt_zero _)

/-- A search that starts behind the cut sees the right piece only. -/
theorem find_keyword_eq_none_of_separated {side : Side} {left right : Text}
    {c : Char} (hc : Text.isWord c = false) {start : Nat}
    (hstart : left.length < start) (hright : find side .keyword right 0 = none) :
    find side .keyword (left ++ c :: right) start = none := by
  refine find_eq_none_iff.2 fun k (hk : start ≤ k) hs => ?_
  rcases (standsIn_separated hc).1 hs with h | ⟨j, -, h⟩
  · have := h.lt_length; omega
  · exact find_eq_none_iff.1 hright j (Nat.zero_le _) h

/-! ## Tildes

The tildes that a search ignores are at the end of the line and belong to no
word, so keywords may as well be looked for on the line as it is. -/

theorem stripTildes_concat {front : Text} {c : Char} (hc : c ≠ '~') :
    stripTildes (front ++ [c]) = front ++ [c] := by
  rw [stripTildes, Text.dropTrailing, List.reverse_append, List.reverse_singleton,
    List.singleton_append, List.dropWhile_cons_of_neg (by simpa using hc),
    List.reverse_cons, List.reverse_reverse]

theorem exists_eq_stripTildes_append (line : Text) :
    ∃ n, line = stripTildes line ++ List.replicate n '~' := by
  have hsplit := List.takeWhile_append_dropWhile (p := (· == '~'))
    (l := line.reverse)
  have hrep : line.reverse.takeWhile (· == '~') =
      List.replicate (line.reverse.takeWhile (· == '~')).length '~' := by
    refine List.eq_replicate_iff.2 ⟨rfl, fun c hc => ?_⟩
    simpa using List.all_eq_true.1 List.all_takeWhile c hc
  refine ⟨(line.reverse.takeWhile (· == '~')).length, ?_⟩
  rw [stripTildes, Text.dropTrailing, ← List.reverse_replicate, ← hrep,
    ← List.reverse_append, hsplit, List.reverse_reverse]

theorem standsIn_keyword_replicate {side : Side} {k : Nat} :
    ∀ (n : Nat) (text : Text),
      StandsIn side .keyword (text ++ List.replicate n '~') k ↔
        StandsIn side .keyword text k := by
  have htilde : Text.isWord '~' = false := by decide +kernel
  have hnone : ∀ n j, ¬ StandsIn side .keyword (List.replicate n '~') j := by
    intro n j
    refine find_eq_none_iff.1 (find_keyword_of_not_isWord fun c hc => ?_) j
      (Nat.zero_le _)
    rw [(List.mem_replicate.1 hc).2, htilde]
  intro n text
  cases n with
  | zero => rw [List.replicate_zero, List.append_nil]
  | succ n =>
      rw [List.replicate_succ, standsIn_separated htilde]
      refine ⟨fun h => ?_, Or.inl⟩
      rcases h with h | ⟨j, -, h⟩
      · exact h
      · exact absurd h (hnone n j)

theorem find_keyword_stripTildes {side : Side} {start : Nat} (line : Text) :
    find side .keyword (stripTildes line) start =
      find side .keyword line start := by
  obtain ⟨n, hn⟩ := exists_eq_stripTildes_append line
  refine find_congr fun k => ?_
  rw [← standsIn_keyword_replicate n (stripTildes line), ← hn]

end Marker

end RubyBlocks
