import RubyBlocks.Glob

/-!
# What a pattern matches

A compiled pattern is a list of items, and matching cuts a text into as many pieces, one
for each item, of which every one is a piece that its item stands for. `Matches` says so
without trying any cut, and `accepts_iff` is the statement that the rows come to that.

How many pieces a wildcard has to choose from is of no importance here. A run takes any
piece, so in front of items that stand for one text only it leaves exactly the texts that
end in this one, however often they contain it. That is all there is to patterns like
`*.rb`, and `matches_ending_iff` gives it for any text without special characters.
-/

namespace RubyBlocks

theorem Text.mem_suffixes_iff {rest : Text} :
    ∀ {text : Text}, rest ∈ suffixes text ↔ rest <:+ text
  | [] => by rw [suffixes, List.mem_singleton, List.suffix_nil]
  | c :: text => by
      rw [suffixes, List.mem_cons, mem_suffixes_iff, List.suffix_cons_iff]

namespace Glob

/-! ## Pieces for items -/

/-- The text can be shared out among the items, in order and without a rest. -/
inductive Matches : List Item → Text → Prop where
  | done : Matches [] []
  /-- A character for an item that stands for one. -/
  | character {item : Item} {items : List Item} {c : Char} {rest : Text}
      (admits : item.admits c = true) (others : Matches items rest) :
      Matches (item :: items) (c :: rest)
  /-- Any piece for a run. -/
  | run {items : List Item} {rest : Text} (piece : Text) (others : Matches items rest) :
      Matches (.run :: items) (piece ++ rest)
  /-- No path components at all. -/
  | nothing {items : List Item} {text : Text} (others : Matches items text) :
      Matches (.components :: items) text
  /-- Path components with the slash behind the last of them. -/
  | components {items : List Item} {rest : Text} (piece : Text)
      (others : Matches items rest) :
      Matches (.components :: items) (piece ++ '/' :: rest)
  /-- As the last item, path components are everything that is left. -/
  | everything (text : Text) : Matches [.components] text

theorem mem_afterSlashes_iff {rest : Text} :
    ∀ {text : Text}, rest ∈ afterSlashes text ↔ ∃ piece, text = piece ++ '/' :: rest
  | [] => by simp [afterSlashes]
  | c :: text => by
      have ih := @mem_afterSlashes_iff rest text
      have hcons : (∃ piece, c :: text = piece ++ '/' :: rest) ↔
          (c = '/' ∧ rest = text) ∨ ∃ piece, text = piece ++ '/' :: rest := by
        constructor
        · rintro ⟨piece, heq⟩
          cases piece with
          | nil =>
              cases heq
              exact Or.inl ⟨rfl, rfl⟩
          | cons d piece =>
              cases heq
              exact Or.inr ⟨piece, rfl⟩
        · rintro (⟨rfl, rfl⟩ | ⟨piece, rfl⟩)
          · exact ⟨[], rfl⟩
          · exact ⟨c :: piece, rfl⟩
      rw [hcons, ← ih, afterSlashes]
      split <;> rename_i hc
      · rw [List.mem_cons, and_iff_right hc]
      · rw [or_iff_right fun h => hc h.1]

section

variable {items : List Item} {text : Text}

theorem matches_nil_iff : Matches [] text ↔ text = [] := by
  constructor
  · rintro ⟨⟩
    rfl
  · rintro rfl
    exact .done

theorem matches_run_iff :
    Matches (.run :: items) text ↔ ∃ rest, rest <:+ text ∧ Matches items rest := by
  constructor
  · rintro (_ | ⟨hadmits, -⟩ | ⟨piece, h⟩)
    · cases hadmits
    · exact ⟨_, List.suffix_append piece _, h⟩
  · rintro ⟨rest, ⟨piece, rfl⟩, h⟩
    exact .run piece h

theorem matches_components_iff :
    Matches (.components :: items) text ↔ items = [] ∨ Matches items text ∨
      ∃ piece rest, text = piece ++ '/' :: rest ∧ Matches items rest := by
  constructor
  · rintro (_ | ⟨hadmits, -⟩ | _ | h | ⟨piece, h⟩ | _)
    · cases hadmits
    · exact Or.inr (Or.inl h)
    · exact Or.inr (Or.inr ⟨piece, _, rfl, h⟩)
    · exact Or.inl rfl
  · rintro (rfl | h | ⟨piece, rest, rfl, h⟩)
    · exact .everything text
    · exact .nothing h
    · exact .components piece h

/-- An item for a single character. -/
def Item.IsCharacter (item : Item) : Prop := item ≠ .run ∧ item ≠ .components

theorem matches_character_iff {item : Item} (hitem : item.IsCharacter) :
    Matches (item :: items) text ↔
      ∃ c rest, text = c :: rest ∧ item.admits c = true ∧ Matches items rest := by
  constructor
  · intro h
    cases h with
    | character hadmits h => exact ⟨_, _, rfl, hadmits, h⟩
    | run => exact absurd rfl hitem.1
    | nothing | components | everything => exact absurd rfl hitem.2
  · rintro ⟨c, rest, rfl, hadmits, h⟩
    exact .character hadmits h

end

theorem matchItems_character_nil {item : Item} (hitem : item.IsCharacter)
    (items : List Item) : matchItems (item :: items) [] = false := by
  cases item with
  | run => exact absurd rfl hitem.1
  | components => exact absurd rfl hitem.2
  | exactly | any | oneOf => rfl

theorem matchItems_character_cons {item : Item} (hitem : item.IsCharacter)
    (items : List Item) (c : Char) (rest : Text) :
    matchItems (item :: items) (c :: rest) = (item.admits c && matchItems items rest) := by
  cases item with
  | run => exact absurd rfl hitem.1
  | components => exact absurd rfl hitem.2
  | exactly | any | oneOf => rfl

/-- The induction is on the items; what is left of the text depends on the piece that the
first item takes. -/
theorem matchItems_iff {items : List Item} :
    ∀ {text : Text}, matchItems items text = true ↔ Matches items text := by
  induction items with
  | nil =>
      intro text
      rw [matchItems, List.isEmpty_iff, matches_nil_iff]
  | cons item items ih =>
      intro text
      by_cases hrun : item = .run
      · rw [hrun, matches_run_iff, matchItems, List.any_eq_true]
        simp only [Text.mem_suffixes_iff, ih]
      · by_cases hcomponents : item = .components
        · rw [hcomponents, matches_components_iff, matchItems, Bool.or_eq_true,
            Bool.or_eq_true, List.isEmpty_iff, List.any_eq_true, ih, or_assoc]
          simp only [mem_afterSlashes_iff, ih]
          refine or_congr_right (or_congr_right ⟨?_, ?_⟩)
          · rintro ⟨rest, ⟨piece, rfl⟩, h⟩
            exact ⟨piece, rest, rfl, h⟩
          · rintro ⟨piece, rest, rfl, h⟩
            exact ⟨rest, ⟨piece, rfl⟩, h⟩
        · have hitem : item.IsCharacter := ⟨hrun, hcomponents⟩
          rw [matches_character_iff hitem]
          cases text with
          | nil => simp [matchItems_character_nil hitem]
          | cons c rest =>
              rw [matchItems_character_cons hitem, Bool.and_eq_true, ih]
              constructor
              · exact fun h => ⟨c, rest, rfl, h⟩
              · rintro ⟨_, _, heq, h⟩
                cases heq
                exact h

theorem accepts_iff {glob : Glob} {text : Text} :
    glob.accepts text = true ↔ Matches glob.items text := by
  rw [accepts_eq, matchItems_iff]

/-! ## Texts as patterns -/

/-- The text has no character that is special in a pattern. -/
def Plain (text : Text) : Prop := ∀ c ∈ text, c ≠ '*' ∧ c ≠ '?' ∧ c ≠ '['

instance (text : Text) : Decidable (Plain text) := List.decidableBAll _ text

theorem compileFrom_plain {text : Text} (h : Plain text) :
    ∀ (index : Nat) (before : Option Char),
      compileFrom none index before text = .ok (text.map .exactly) := by
  induction text with
  | nil =>
      intro index before
      rw [compileFrom, List.map_nil]
  | cons c rest ih =>
      intro index before
      obtain ⟨⟨hstar, hany, hclass⟩, hrest⟩ := List.forall_mem_cons.1 h
      rw [compileFrom.eq_def]
      simp only [hstar, hany, hclass, if_false, ih hrest, Except.map, List.map_cons]

theorem compile_plain {text : Text} (h : Plain text) :
    compile text = .ok ⟨text.map .exactly⟩ := by
  rw [compile, compileFrom_plain h, Except.map]

theorem compile_run_plain {text : Text} (h : Plain text) :
    compile ('*' :: text) = .ok ⟨.run :: text.map .exactly⟩ := by
  have hrun : compileFrom none 0 none ('*' :: text) =
      (compileFrom none 1 (some '*') text).map (.run :: ·) := by
    rw [compileFrom.eq_def]
    cases text with
    | nil => rfl
    | cons c rest =>
        have hc : c ≠ '*' := (h c List.mem_cons_self).1
        simp [hc]
  rw [compile, hrun, compileFrom_plain h]
  rfl

theorem matches_exactly_iff {name : Text} :
    ∀ {text : Text}, Matches (text.map .exactly) name ↔ name = text := by
  intro text
  induction text generalizing name with
  | nil => exact matches_nil_iff
  | cons c rest ih =>
      have hexactly : (Item.exactly c).IsCharacter := ⟨nofun, nofun⟩
      rw [List.map_cons, matches_character_iff hexactly]
      simp only [ih, Item.admits, beq_iff_eq]
      constructor
      · rintro ⟨d, rest, rfl, rfl, rfl⟩
        rfl
      · rintro rfl
        exact ⟨c, rest, rfl, rfl, rfl⟩

/-- A pattern without special characters matches itself. -/
theorem matches_plain_iff {text name : Text} (h : Plain text) :
    (∃ glob, compile text = .ok glob ∧ Matches glob.items name) ↔ name = text := by
  rw [compile_plain h]
  simp only [Except.ok.injEq, exists_eq_left', matches_exactly_iff]

/-- A pattern that begins with a run, and has no other special character, matches what ends
like it. -/
theorem matches_ending_iff {text name : Text} (h : Plain text) :
    (∃ glob, compile ('*' :: text) = .ok glob ∧ Matches glob.items name) ↔
      text <:+ name := by
  rw [compile_run_plain h]
  simp only [Except.ok.injEq, exists_eq_left', matches_run_iff, matches_exactly_iff,
    exists_eq_right]

end Glob

end RubyBlocks
