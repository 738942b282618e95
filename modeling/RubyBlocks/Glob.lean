import RubyBlocks.Text.Basic

/-!
# File name patterns

A pattern is compiled into a list of items, and a text matches when the items can
share it out among themselves, in order and without a rest.

* `?` stands for any character and `*` for any run of characters.
* `[...]` stands for one of the listed characters and `[!...]` for any other. A `]`
  right behind the opening is listed, and `a-z` lists a range.
* `**` stands for whole path components. It has to be a component by itself, and the
  slash behind it belongs to it.
* Every other character stands for itself.

Nothing is special about a slash or a leading dot for `?`, `*` and the classes.

`matchItems` says what matching means, and tries every way to share a text out. Their
number grows with the power of the stars in a pattern, so `accepts` goes through the items
once, from the last to the first, and keeps one answer for each suffix of the text.
`accepts_eq` says that this comes to the same.
-/

namespace RubyBlocks

namespace Glob

/-- Why a pattern cannot be compiled. -/
inductive Cause where
  /-- Three or more `*` in a row. -/
  | tooManyStars
  /-- A `**` with something else in its path component. -/
  | notComponent
  /-- A `[` without the `]` that closes it. -/
  | unclosedClass
deriving Repr, DecidableEq

/-- A cause and the place in the pattern, counted in characters. -/
structure Fault where
  position : Nat
  cause : Cause
deriving Repr, DecidableEq

/-- The wording of a cause. -/
def Cause.message : Cause → String
  | tooManyStars => "wildcards are either regular `*` or recursive `**`"
  | notComponent => "recursive wildcards must form a single path component"
  | unclosedClass => "invalid range pattern"

/-- The wording of a fault. -/
def Fault.message (fault : Fault) : String :=
  s!"Pattern syntax error near position {fault.position}: {fault.cause.message}"

/-- A part of a pattern. -/
inductive Item where
  /-- This character. -/
  | exactly (c : Char)
  /-- Any character. -/
  | any
  /-- A character that lies in one of the ranges, or with `negated` in none. -/
  | oneOf (negated : Bool) (ranges : List (Char × Char))
  /-- Any run of characters. -/
  | run
  /-- Any number of path components. -/
  | components
deriving Repr, DecidableEq

/-! ## Compiling -/

/-- The ranges that the text of a class lists. -/
def ranges : Text → List (Char × Char)
  | first :: '-' :: last :: rest => (first, last) :: ranges rest
  | c :: rest => (c, c) :: ranges rest
  | [] => []

/-- A class whose end is still to come: where it opened, and its text so far. -/
structure OpenClass where
  position : Nat
  negated : Bool
  text : Text

/-- The items of a pattern from character `index` on, with `before` to the left of it.
Inside a class, `pending` holds what was read of it. -/
def compileFrom (pending : Option OpenClass) (index : Nat) (before : Option Char) :
    Text → Except Fault (List Item)
  | [] =>
    match pending with
    | some cls => .error ⟨cls.position, .unclosedClass⟩
    | none => .ok []
  | c :: rest =>
    match pending with
    | some cls =>
      if c = ']' && !cls.text.isEmpty then
        (compileFrom none (index + 1) (some c) rest).map
          (.oneOf cls.negated (ranges cls.text) :: ·)
      else compileFrom (some { cls with text := cls.text ++ [c] }) (index + 1) (some c) rest
    | none =>
      if c = '*' then
        match rest with
        | '*' :: '*' :: _ => .error ⟨index + 2, .tooManyStars⟩
        | '*' :: rest =>
          if before.all (· == '/') then
            match rest with
            | [] => .ok [.components]
            | d :: rest =>
              if d = '/' then
                (compileFrom none (index + 3) (some d) rest).map (.components :: ·)
              else .error ⟨index + 2, .notComponent⟩
          else .error ⟨index - 1, .notComponent⟩
        | rest => (compileFrom none (index + 1) (some c) rest).map (.run :: ·)
      else if c = '?' then (compileFrom none (index + 1) (some c) rest).map (.any :: ·)
      else if c = '[' then
        match rest with
        | '!' :: rest => compileFrom (some ⟨index, true, []⟩) (index + 2) (some '!') rest
        | rest => compileFrom (some ⟨index, false, []⟩) (index + 1) (some c) rest
      else (compileFrom none (index + 1) (some c) rest).map (.exactly c :: ·)

/-! ## Matching -/

/-- What can be left of a text once whole path components are taken from its front. -/
def afterSlashes : Text → List Text
  | [] => []
  | c :: rest => if c = '/' then rest :: afterSlashes rest else afterSlashes rest

/-- Whether a character is one that an item for a single character stands for. -/
def Item.admits (item : Item) (c : Char) : Bool :=
  match item with
  | exactly d => c == d
  | any => true
  | oneOf negated ranges =>
    ranges.any (fun (first, last) => first ≤ c && c ≤ last) != negated
  | run | components => false

/-- Whether the items match the whole text. -/
def matchItems : List Item → Text → Bool
  | [], text => text.isEmpty
  | .run :: items, text => (Text.suffixes text).any (matchItems items)
  | .components :: items, text =>
    items.isEmpty || matchItems items text || (afterSlashes text).any (matchItems items)
  | item :: items, text =>
    match text with
    | [] => false
    | c :: rest => item.admits c && matchItems items rest

/-! ## Matching every suffix at once

A row holds one answer for each suffix of a text, the whole text first. -/

/-- The row of a predicate on texts. -/
def rowOf (matched : Text → Bool) (text : Text) : List Bool := (Text.suffixes text).map matched

/-- The row for an item for one character, given the row of the items behind it. -/
def characterRow (item : Item) : Text → List Bool → List Bool
  | c :: rest, _ :: row => (item.admits c && row.headD false) :: characterRow item rest row
  | _, _ => [false]

/-- The row for any run of characters, given the row of the items behind it. -/
def runRow : List Bool → List Bool
  | [] => []
  | answer :: row =>
    let later := runRow row
    (answer || later.headD false) :: later

/-- Whether the items behind match somewhere after a slash, for each suffix. -/
def slashRow : Text → List Bool → List Bool
  | c :: rest, _ :: row =>
    let later := slashRow rest row
    (c == '/' && row.headD false || later.headD false) :: later
  | _, _ => [false]

/-- The row of a list of items. -/
def itemsRow : List Item → Text → List Bool
  | [], text => rowOf List.isEmpty text
  | .run :: items, text => runRow (itemsRow items text)
  | .components :: items, text =>
    if items.isEmpty then rowOf (fun _ => true) text
    else
      let row := itemsRow items text
      List.zipWith or row (slashRow text row)
  | item :: items, text => characterRow item text (itemsRow items text)

theorem rowOf_cons (matched : Text → Bool) (c : Char) (rest : Text) :
    rowOf matched (c :: rest) = matched (c :: rest) :: rowOf matched rest := rfl

theorem head?_rowOf (matched : Text → Bool) (text : Text) :
    (rowOf matched text).head? = some (matched text) := by
  cases text <;> rfl

theorem characterRow_rowOf (item : Item) (matched : Text → Bool) (text : Text) :
    characterRow item text (rowOf matched text) =
      rowOf (fun
        | [] => false
        | c :: rest => item.admits c && matched rest) text := by
  induction text with
  | nil => rfl
  | cons c rest ih => simp [rowOf_cons, characterRow, ih, head?_rowOf]

theorem runRow_rowOf (matched : Text → Bool) (text : Text) :
    runRow (rowOf matched text) = rowOf (fun t => (Text.suffixes t).any matched) text := by
  induction text with
  | nil => simp [rowOf, runRow, Text.suffixes]
  | cons c rest ih => simp [rowOf_cons, runRow, ih, head?_rowOf, Text.suffixes]

theorem slashRow_rowOf (matched : Text → Bool) (text : Text) :
    slashRow text (rowOf matched text) =
      rowOf (fun t => (afterSlashes t).any matched) text := by
  induction text with
  | nil => rfl
  | cons c rest ih =>
    by_cases h : c = '/' <;>
      simp [rowOf_cons, slashRow, ih, head?_rowOf, afterSlashes, h]

theorem zipWith_or_rowOf (matched matched' : Text → Bool) (text : Text) :
    List.zipWith or (rowOf matched text) (rowOf matched' text) =
      rowOf (fun t => matched t || matched' t) text := by
  simp [rowOf, List.zipWith_map, List.zipWith_self]

/-- The row of a list of items says of every suffix whether they match it. -/
theorem itemsRow_eq (items : List Item) (text : Text) :
    itemsRow items text = rowOf (matchItems items) text := by
  induction items with
  | nil => rfl
  | cons item items ih =>
    cases item with
    | run => simp only [itemsRow, ih, runRow_rowOf, matchItems]
    | components =>
      cases items with
      | nil => rfl
      | cons next items =>
        simp only [itemsRow, ih, slashRow_rowOf, zipWith_or_rowOf]
        simp [rowOf, matchItems]
    | exactly d => simp only [itemsRow, ih, characterRow_rowOf]; rfl
    | any => simp only [itemsRow, ih, characterRow_rowOf]; rfl
    | oneOf negated ranges => simp only [itemsRow, ih, characterRow_rowOf]; rfl

end Glob

/-- A compiled pattern. -/
structure Glob where
  items : List Glob.Item
deriving Repr, DecidableEq

namespace Glob

/-- Compiles a pattern. -/
def compile (pattern : Text) : Except Fault Glob := (compileFrom none 0 none pattern).map Glob.mk

/-- Whether a pattern matches the whole text. -/
def accepts (glob : Glob) (text : Text) : Bool := (itemsRow glob.items text).headD false

theorem accepts_eq (glob : Glob) (text : Text) :
    glob.accepts text = matchItems glob.items text := by
  simp [accepts, itemsRow_eq, head?_rowOf]

end Glob

end RubyBlocks
