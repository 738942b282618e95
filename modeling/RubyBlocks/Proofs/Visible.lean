import RubyBlocks.Proofs.Conversion
import RubyBlocks.Proofs.Delimiters

/-!
# What a conversion keeps of a text

Lines are laid out anew by a conversion, so blanks come and go, and what should stay
are the other characters, in their order. `visible` reads them off.

A block of braces on several lines is not laid out anew. Its first and its last line
are cut at the brace and the keyword is put there, and the lines between them are
kept. Behind the last brace there is nothing but tildes, so nothing is lost there.
Behind the first one there may be anything, and unless it is a list of arguments it
is gone: `f { g` opens with `f do` afterwards, and no other line has the `g`.
-/

namespace RubyBlocks

namespace Text

/-- The text without its blanks. -/
def visible (text : Text) : Text := text.filter fun c => !isBlank c

@[simp] theorem visible_append (left right : Text) :
    visible (left ++ right) = visible left ++ visible right :=
  List.filter_append left right

theorem visible_eq_nil_iff {text : Text} : visible text = [] ↔ Blanks text := by
  simp [visible, Blanks, List.filter_eq_nil_iff]

theorem visible_squeeze (text : Text) : visible (squeeze text) = visible text := by
  have hrun : ∀ (text : Text) (inRun : Bool),
      visible (squeezeFrom inRun text) = visible text := by
    intro text
    induction text with
    | nil => intro inRun; rfl
    | cons c text ih =>
        intro inRun
        simp only [visible] at ih
        rw [squeezeFrom]
        cases hc : isBlank c <;> cases inRun <;> simp [visible, hc, ih, isBlank_space]
  exact hrun text false

theorem visible_dropWhile (text : Text) :
    visible (text.dropWhile isBlank) = visible text := by
  have hfront := visible_eq_nil_iff.2 (blanks_takeWhile text)
  have h := visible_append (text.takeWhile isBlank) (text.dropWhile isBlank)
  rw [List.takeWhile_append_dropWhile, hfront, List.nil_append] at h
  exact h.symm

theorem visible_indentation (line : Text) : visible (indentation line) = [] :=
  visible_eq_nil_iff.2 (blanks_takeWhile line)

theorem visible_trim (text : Text) : visible (trim text) = visible text := by
  have hreverse : ∀ text : Text, visible text.reverse = (visible text).reverse :=
    fun _ => List.filter_reverse
  rw [trim, dropTrailing, hreverse, visible_dropWhile, hreverse, List.reverse_reverse,
    visible_dropWhile]

end Text

namespace Block

/-- The line with the character at a column exchanged for a word. -/
def swapAt (column : Nat) (word line : Text) : Text :=
  line.take column ++ (word ++ line.drop (column + 1))

/-- The brace that closes a block ends its line but for the tildes. -/
theorem Encloses.stripTildes_closing {lines : List Text} {cursor : Nat}
    {block : Block} (h : Encloses lines cursor block) (hstyle : block.style = .brace)
    {last : Text} (hlast : lines[block.closing.line]? = some last) :
    Marker.stripTildes last = last.take block.closing.column ++ ['}'] := by
  have hstands := h.standsIn_closing hlast
  rw [hstyle] at hstands
  have hlt := hstands.lt_length
  obtain ⟨n, hn⟩ := Marker.exists_eq_stripTildes_append last
  have htake : last.take block.closing.column =
      (Marker.stripTildes last).take block.closing.column := by
    rw [hn, List.take_append_of_le_length (Nat.le_of_lt hlt), ← hn]
  rw [htake, ← Marker.standsIn_closing_brace_iff.1 hstands, List.take_append_drop]

/-- The text of a block of braces on several lines is kept up to its delimiters
exactly when the brace that opens it is the last thing to be seen on its line. -/
theorem toggle_brace_visible_iff {lines middle : List Text} {cursor : Nat}
    {block : Block} {first last : Text}
    (hblock : enclosing lines cursor = .ok block) (hstyle : block.style = .brace)
    (hown : sourceLines lines block = .ok (first :: (middle ++ [last])))
    (hbars : '|' ∉ first) :
    ∃ toggled, toggle lines cursor = .ok toggled ∧
      toggled.lines = (first.take block.opening.column ++ Side.opening.keyword) ::
        (middle ++ [last.take block.closing.column ++ Side.closing.keyword]) ∧
      (Text.visible toggled.lines.flatten = Text.visible
          (swapAt block.opening.column Side.opening.keyword first ::
            (middle ++ [swapAt block.closing.column Side.closing.keyword
              (Marker.stripTildes last)])).flatten ↔
        Text.Blanks (first.drop (block.opening.column + 1))) := by
  have hencl := enclosing_eq_ok_iff.1 hblock
  have hlast : lines[block.closing.line]? = some last := by
    rw [← List.cons_append] at hown
    exact getElem?_closing_of_sourceLines hown
  have hconverted : converted lines block = .ok
      ((first.take block.opening.column ++ Side.opening.keyword) ::
        (middle ++ [last.take block.closing.column ++ Side.closing.keyword])) := by
    rw [converted, hstyle]
    show toKeywords lines block = _
    rw [toKeywords_long hown, arguments?_eq_none hbars, keywordOpening,
      Option.map_none, Option.getD_none, List.append_nil]
  refine ⟨_, toggle_eq_ok hencl hconverted, rfl, ?_⟩
  have hswap : swapAt block.closing.column Side.closing.keyword
      (Marker.stripTildes last) =
        last.take block.closing.column ++ Side.closing.keyword := by
    have hcut := hencl.stripTildes_closing hstyle hlast
    have hlen : (last.take block.closing.column).length = block.closing.column :=
      List.length_take_of_le (Nat.le_of_lt (hencl.closing_column_lt hlast))
    rw [swapAt, hcut, List.take_left' hlen, List.drop_eq_nil_of_le (by simp [hlen]),
      List.append_nil]
  rw [hswap, swapAt, ← Text.visible_eq_nil_iff]
  simp [List.flatten_cons]

theorem toggle_brace_visible_lost :
    ∃ toggled, toggle [['f', ' ', '{', ' ', 'b'], [' ', '}', '~']] 0 = .ok toggled ∧
      Text.visible toggled.lines.flatten ≠
        Text.visible (['f', ' ', 'd', 'o', ' ', 'b'] ++ [' ', 'e', 'n', 'd']) := by
  obtain ⟨toggled, htoggle, -, hiff⟩ :=
    @toggle_brace_visible_iff [['f', ' ', '{', ' ', 'b'], [' ', '}', '~']] [] 0
      ⟨.brace, ⟨0, 2⟩, ⟨1, 1⟩⟩ ['f', ' ', '{', ' ', 'b'] [' ', '}', '~']
      (by decide +kernel) rfl (by decide +kernel) (by decide)
  refine ⟨toggled, htoggle, fun hkept => ?_⟩
  exact absurd (hiff.1 hkept) (by decide +kernel)

/-- So the delimiters are not all that changes. -/
theorem not_forall_toggle_brace_visible :
    ¬ ∀ (lines middle : List Text) (cursor : Nat) (block : Block)
        (first last : Text) (toggled : Toggled),
      enclosing lines cursor = .ok block → block.style = .brace →
      sourceLines lines block = .ok (first :: (middle ++ [last])) → '|' ∉ first →
      toggle lines cursor = .ok toggled →
      Text.visible toggled.lines.flatten = Text.visible
        (swapAt block.opening.column Side.opening.keyword first ::
          (middle ++ [swapAt block.closing.column Side.closing.keyword
            (Marker.stripTildes last)])).flatten := by
  intro h
  have hkept := h [['f', ' ', '{', ' ', 'b'], ['}']] [] 0
    ⟨.brace, ⟨0, 2⟩, ⟨1, 0⟩⟩ ['f', ' ', '{', ' ', 'b'] ['}']
    ⟨[['f', ' ', 'd', 'o'], ['e', 'n', 'd']], 0, 1⟩ (by decide +kernel) rfl
    (by decide +kernel) (by decide) (by decide +kernel)
  exact absurd hkept (by decide +kernel)

end Block

end RubyBlocks
