import RubyBlocks.Proofs.Conversion
import RubyBlocks.Proofs.Encoding
import RubyBlocks.Proofs.Selection

/-!
# Conversions of any block

A conversion takes any block, and the columns of one that nobody found can be anywhere:
behind the end of their line, in the wrong order, next to characters of several bytes. A
line is a range of bytes, though, and what is cut out of it is a range of bytes too, which
has to lie in the line and between characters. So the conversions are written a second
time here with every cut, every index and every successor checked, and without an answer
where a check fails. The two always agree (`checkedBraced_eq`, `checkedWorded_eq`). They
do because a column that is turned into an offset is clamped to the line first, because
a range that would run backward is made empty, and because a word that is found ends where
a character does.

What is left is counting. A conversion rewrites the lines of the block, whatever they are
and whatever its style, and as long as it does not fold or unfold them it only touches the
first and the last.
-/

namespace RubyBlocks

namespace Span

/-- The characters whose bytes the range holds. There are none such if it runs backward,
leaves the text or cuts through a character. -/
def cut? (span : Span) (text : Text) : Option Text :=
  if span.Fits text then (Utf8.decode (span.covered text)).toOption else none

theorem cut?_append (front piece back : Text) :
    cut? ⟨Text.byteLength front, Text.byteLength front + Text.byteLength piece⟩
      (front ++ (piece ++ back)) = some piece := by
  have hfits : Fits ⟨0, Text.byteLength piece⟩ piece :=
    ⟨Nat.zero_le _, Nat.le_refl _, Text.isBoundary_zero _, Text.isBoundary_byteLength _⟩
  have hwhole : Fits ⟨Text.byteLength front,
      Text.byteLength front + Text.byteLength piece⟩ (front ++ (piece ++ back)) :=
    fits_append_right.2 ((fits_append_left back (Nat.le_refl _)).2 hfits)
  have hcovered : covered ⟨Text.byteLength front,
      Text.byteLength front + Text.byteLength piece⟩ (front ++ (piece ++ back)) =
        Utf8.encode piece := by
    refine (covered_append_right front (piece ++ back) 0 _).trans ?_
    rw [covered_append_left back (Nat.le_refl _), covered, ← Utf8.length_encode,
      List.take_length, List.drop_zero]
  rw [cut?, if_pos hwhole, hcovered, Utf8.decode_encode]
  rfl

example : cut? ⟨1, 3⟩ ['a', 'é'] = some ['é'] ∧ cut? ⟨0, 2⟩ ['a', 'é'] = none ∧
    cut? ⟨1, 0⟩ ['a', 'é'] = none ∧ cut? ⟨3, 4⟩ ['a', 'é'] = none := by decide +kernel

theorem cut?_front (front back : Text) :
    cut? ⟨0, Text.byteLength front⟩ (front ++ back) = some front := by
  have h := cut?_append [] front back
  rwa [Text.byteLength, Nat.zero_add, List.nil_append] at h

theorem cut?_back (front back : Text) :
    cut? ⟨Text.byteLength front, Text.byteLength (front ++ back)⟩ (front ++ back) =
      some back := by
  have h := cut?_append front back []
  rwa [List.append_nil, ← Text.byteLength_append] at h

end Span

namespace Text

/-! ## Columns as offsets -/

/-- The byte offset at which a column begins. One that the text does not have begins at its
end. -/
def offsetOf (text : Text) (column : Nat) : Nat := byteLength (text.take column)

/-- The characters of columns `first` to `last - 1`, cut out by their offsets. -/
def columns? (text : Text) (first last : Nat) : Option Text :=
  let start := offsetOf text first
  Span.cut? ⟨start, max (offsetOf text last) start⟩ text

theorem take_eq_append_slice (text : Text) {first last : Nat} (h : first ≤ last) :
    text.take last = text.take first ++ slice text first last := by
  rw [slice, ← Nat.min_eq_left h, ← List.take_take, Nat.min_eq_left h,
    List.take_append_drop]

theorem offsetOf_eq_add (text : Text) {first last : Nat} (h : first ≤ last) :
    offsetOf text last = offsetOf text first + byteLength (slice text first last) := by
  rw [offsetOf, take_eq_append_slice text h, byteLength_append, offsetOf]

theorem slice_eq_nil (text : Text) {first last : Nat} (h : last ≤ first) :
    slice text first last = [] := by
  rw [slice]
  exact List.drop_eq_nil_of_le (Nat.le_trans (List.length_take_le _ _) h)

theorem columns?_of_le (text : Text) {first last : Nat} (h : first ≤ last) :
    columns? text first last = some (slice text first last) := by
  have hcut : text = text.take first ++ (slice text first last ++ text.drop last) := by
    rw [← List.append_assoc, ← take_eq_append_slice text h, List.take_append_drop]
  have hoffset := offsetOf_eq_add text h
  have hpiece := Span.cut?_append (text.take first) (slice text first last)
    (text.drop last)
  rw [← hcut] at hpiece
  rw [columns?, Nat.max_eq_left (by omega), hoffset]
  exact hpiece

/-- Columns in the wrong order are cut like those of an empty piece at the first of them. -/
theorem columns?_eq (text : Text) (first last : Nat) :
    columns? text first last = some (slice text first last) := by
  rcases Nat.le_total first last with h | h
  · exact columns?_of_le text h
  · have hempty := columns?_of_le text (Nat.le_refl first)
    have hoffset := offsetOf_eq_add text h
    rw [columns?, Nat.max_self, slice_eq_nil text (Nat.le_refl first)] at hempty
    rw [columns?, Nat.max_eq_right (by omega), slice_eq_nil text h]
    exact hempty

theorem columns?_zero (text : Text) (column : Nat) :
    columns? text 0 column = some (text.take column) :=
  columns?_eq text 0 column

end Text

namespace Block

/-! ## The conversions with checks -/

/-- The next number, if a machine word holds it. -/
def successor? (n : Nat) : Option Nat := if n + 1 < UInt64.size then some (n + 1) else none

/-- The lines with the one at an index rewritten, if there is such a line. -/
def checkedModify (rewrite : Text → Option Text) (lines : List Text) (index : Nat) :
    Option (List Text) := do
  let line ← lines[index]?
  return lines.set index (← rewrite line)

/-- The blanks a line starts with, cut out of it. -/
def checkedIndentation (line : Text) : Option Text :=
  Span.cut? ⟨0, Text.byteLength line - Text.byteLength (line.dropWhile Text.isBlank)⟩ line

/-- `replaceKeyword` with the line cut around the word. What is searched is cut off too. -/
def checkedReplaceKeyword (side : Side) (column : Nat) (replacement line : Text) :
    Option Text := do
  let skipped ← Text.columns? line 0 column
  let _ ← Span.cut? ⟨Text.byteLength skipped, Text.byteLength line⟩ line
  match Marker.find side .keyword line column with
  | none => return line
  | some k =>
    let start := Text.offsetOf line k
    let front ← Span.cut? ⟨0, start⟩ line
    let back ← Span.cut? ⟨start + Text.byteLength side.keyword, Text.byteLength line⟩ line
    return front ++ replacement ++ back

/-- `keywordOpening` with the line cut before the brace. -/
def checkedOpening (column : Nat) (line : Text) : Option Text := do
  let front ← Text.columns? line 0 column
  return front ++ Side.opening.keyword ++ ((arguments? line).map (' ' :: ·)).getD []

/-- The closing line with `end` for what stands from the brace on. -/
def checkedClosing (column : Nat) (line : Text) : Option Text := do
  return (← Text.columns? line 0 column) ++ Side.closing.keyword

/-- `inlineBody` with the line cut between the braces. -/
def checkedBody (line : Text) (block : Block) : Option Text := do
  let first ← successor? block.opening.column
  let body := Text.trim (← Text.columns? line first block.closing.column)
  return (arguments? line).elim body fun list => Text.trim (Text.eraseFirst list body)

/-- The lines that turning words into braces makes of the lines of a block. -/
def braced (block : Block) (own : List Text) : List Text :=
  if foldLimit < (bracesForKeywords block own).length then bracesForKeywords block own
  else [fold (bracesForKeywords block own)]

/-- The lines that turning braces into words makes of the lines of a block. -/
def worded (block : Block) : List Text → List Text
  | [line] =>
    [keywordOpening line block.opening.column (arguments? line),
      Text.indentation line ++ innerIndent ++ inlineBody line block (arguments? line),
      Text.indentation line ++ Side.closing.keyword]
  | own =>
    (own.modify 0 fun line =>
      keywordOpening line block.opening.column (arguments? line)).modify (own.length - 1)
        fun line => line.take block.closing.column ++ Side.closing.keyword

/-- `braced` with every cut checked. -/
def checkedBraced (block : Block) (own : List Text) : Option (List Text) := do
  let closed ← checkedModify (checkedReplaceKeyword .closing block.closing.column ['}'])
    own (own.length - 1)
  let swapped ← checkedModify
    (checkedReplaceKeyword .opening block.opening.column ['{']) closed 0
  if foldLimit < swapped.length then return swapped
  let indent ← checkedIndentation (← swapped[0]?)
  return [indent ++ (Text.squeeze (List.intercalate [' '] swapped)).dropWhile Text.isBlank]

/-- `worded` with every cut checked. -/
def checkedWorded (block : Block) : List Text → Option (List Text)
  | [line] => do
    let indent ← checkedIndentation line
    let opening ← checkedOpening block.opening.column line
    let body ← checkedBody line block
    return [opening, indent ++ innerIndent ++ body, indent ++ Side.closing.keyword]
  | own => do
    let opened ← checkedModify (checkedOpening block.opening.column) own 0
    checkedModify (checkedClosing block.closing.column) opened (own.length - 1)

/-- The lines from index `first` on, up to index `last` and without it, if they exist. -/
def checkedRows (lines : List Text) (first last : Nat) : Option (List Text) :=
  if first ≤ last ∧ last ≤ lines.length then some ((lines.take last).drop first) else none

/-- A conversion with checks: the lines of the block are cut out, unless it is one that
cannot be converted, and rewritten. -/
def checkedConversion (rewrite : List Text → Option (List Text)) (lines : List Text)
    (block : Block) : Option (Except BlockError (List Text)) :=
  if lines.length ≤ block.closing.line then
    some (.error (.noSuchLine block.closing.line lines.length))
  else if block.closing.line < block.opening.line then
    some (.error (.reversed block.opening.line block.closing.line))
  else do
    let own ← checkedRows lines block.opening.line (block.closing.line + 1)
    return .ok (← rewrite own)

/-! ## The checks hold -/

theorem successor?_eq {n : Nat} (h : n + 1 < UInt64.size) : successor? n = some (n + 1) :=
  if_pos h

theorem checkedModify_eq {rewrite : Text → Option Text} {f : Text → Text}
    (hrewrite : ∀ line, rewrite line = some (f line)) (lines : List Text) (index : Nat)
    (hindex : index < lines.length) :
    checkedModify rewrite lines index = some (lines.modify index f) := by
  rw [checkedModify, List.getElem?_eq_getElem hindex]
  simp [hrewrite, List.modify_eq_set_getElem?, hindex]

theorem checkedIndentation_eq (line : Text) :
    checkedIndentation line = some (Text.indentation line) := by
  have hcut := List.takeWhile_append_dropWhile (p := Text.isBlank) (l := line)
  have h := Span.cut?_front (Text.indentation line) (line.dropWhile Text.isBlank)
  have hlen := Text.byteLength_append (Text.indentation line) (line.dropWhile Text.isBlank)
  rw [Text.indentation] at h hlen ⊢
  rw [hcut] at h hlen
  rw [checkedIndentation, hlen, Nat.add_sub_cancel]
  exact h

theorem checkedReplaceKeyword_eq (side : Side) (column : Nat) (replacement line : Text) :
    checkedReplaceKeyword side column replacement line =
      some (replaceKeyword side column replacement line) := by
  have hsearched := Span.cut?_back (line.take column) (line.drop column)
  rw [List.take_append_drop] at hsearched
  rw [checkedReplaceKeyword, replaceKeyword, Text.columns?_zero]
  simp only [Option.bind_eq_bind, Option.bind_some, hsearched]
  cases hfind : Marker.find side .keyword line column with
  | none => rfl
  | some k =>
      obtain ⟨-, hstands, -⟩ := Marker.find_eq_some_iff.1 hfind
      obtain ⟨front, back, rfl, rfl, -⟩ := Marker.standsIn_keyword_iff.1 hstands
      have hstart : Text.offsetOf (front ++ (side.keyword ++ back)) front.length =
          Text.byteLength front := by rw [Text.offsetOf, List.take_left]
      have hfront := Span.cut?_front front (side.keyword ++ back)
      have hback := Span.cut?_back (front ++ side.keyword) back
      rw [List.append_assoc, Text.byteLength_append front side.keyword] at hback
      simp only [hstart, hfront, hback, Option.bind_some, List.take_left]
      rw [← List.append_assoc front side.keyword back, ← List.length_append,
        List.drop_left]
      rfl

theorem checkedOpening_eq (column : Nat) (line : Text) :
    checkedOpening column line = some (keywordOpening line column (arguments? line)) := by
  rw [checkedOpening, Text.columns?_zero]
  rfl

theorem checkedClosing_eq (column : Nat) (line : Text) :
    checkedClosing column line = some (line.take column ++ Side.closing.keyword) := by
  rw [checkedClosing, Text.columns?_zero]
  rfl

theorem checkedBody_eq (line : Text) {block : Block}
    (h : block.opening.column + 1 < UInt64.size) :
    checkedBody line block = some (inlineBody line block (arguments? line)) := by
  rw [checkedBody, successor?_eq h]
  simp only [Option.bind_eq_bind, Option.bind_some, Text.columns?_eq, inlineBody]
  cases arguments? line <;> rfl

theorem length_bracesForKeywords (block : Block) (own : List Text) :
    (bracesForKeywords block own).length = own.length := by
  rw [bracesForKeywords, List.length_modify, List.length_modify]

/-- Every cut that turning words into braces makes can be made. -/
theorem checkedBraced_eq (block : Block) {own : List Text} (h : 0 < own.length) :
    checkedBraced block own = some (braced block own) := by
  have hclosing := checkedModify_eq
    (checkedReplaceKeyword_eq .closing block.closing.column ['}']) own (own.length - 1)
    (by omega)
  have hopening := checkedModify_eq
    (checkedReplaceKeyword_eq .opening block.opening.column ['{'])
    (own.modify (own.length - 1) (replaceKeyword .closing block.closing.column ['}'])) 0
    (by rw [List.length_modify]; exact h)
  rw [← bracesForKeywords] at hopening
  rw [checkedBraced, braced]
  simp only [Option.bind_eq_bind, hclosing, Option.bind_some, hopening]
  split
  · rfl
  · -- The first line, whose indentation is kept, is still there after the swap.
    rw [← length_bracesForKeywords block] at h
    obtain ⟨first, rest, hlines⟩ := List.exists_cons_of_length_pos h
    simp only [hlines, List.getElem?_cons_zero, Option.bind_some, checkedIndentation_eq]
    rfl

/-- Every cut that turning braces into words makes can be made, once the column behind the
opening brace can be computed. -/
theorem checkedWorded_eq {block : Block} (hcolumn : block.opening.column + 1 < UInt64.size)
    {own : List Text} (h : 0 < own.length) :
    checkedWorded block own = some (worded block own) := by
  match own with
  | [line] =>
      rw [checkedWorded, checkedIndentation_eq, checkedOpening_eq,
        checkedBody_eq line hcolumn]
      rfl
  | first :: second :: rest =>
      have hopening := checkedModify_eq (checkedOpening_eq block.opening.column)
        (first :: second :: rest) 0 h
      have hclosing := checkedModify_eq (checkedClosing_eq block.closing.column)
        ((first :: second :: rest).modify 0 fun line =>
          keywordOpening line block.opening.column (arguments? line))
        ((first :: second :: rest).length - 1) (by rw [List.length_modify]; omega)
      rw [checkedWorded, worded, hopening]
      · exact hclosing
      all_goals simp

/-- A conversion with checks is the conversion, if the checks hold in every block that has
a line. -/
theorem checkedConversion_eq {rewrite : List Text → Option (List Text)}
    {f : List Text → List Text}
    (hrewrite : ∀ own : List Text, 0 < own.length → rewrite own = some (f own))
    (lines : List Text) (block : Block) :
    checkedConversion rewrite lines block = some ((sourceLines lines block).map f) := by
  rw [checkedConversion, sourceLines]
  split
  · rfl
  · split
    · rfl
    · have hrows : block.opening.line ≤ block.closing.line + 1 ∧
          block.closing.line + 1 ≤ lines.length := by omega
      have hpos : 0 < ((lines.take (block.closing.line + 1)).drop
          block.opening.line).length := by
        rw [List.length_drop, List.length_take]
        omega
      rw [checkedRows, if_pos hrows]
      simp only [Option.bind_eq_bind, Option.bind_some, hrewrite _ hpos]
      rfl

/-! ## What the conversions answer -/

/-- How many lines a block has, if it does not run backward. -/
def height (block : Block) : Nat := block.closing.line - block.opening.line + 1

/-- What a conversion that makes `count n` lines of `n` lines answers on a block: an error
if the block names a line that is missing, another one if it runs backward, and lines
otherwise. If they are as many as the block has, those between its ends are the block's. -/
structure Answers (count : Nat → Nat) (lines : List Text) (block : Block)
    (answer : Except BlockError (List Text)) : Prop where
  noSuchLine_iff : answer = .error (.noSuchLine block.closing.line lines.length) ↔
    lines.length ≤ block.closing.line
  reversed_iff : answer = .error (.reversed block.opening.line block.closing.line) ↔
    block.closing.line < lines.length ∧ block.closing.line < block.opening.line
  ok_iff : (∃ new, answer = .ok new) ↔
    block.closing.line < lines.length ∧ block.opening.line ≤ block.closing.line
  length_eq : ∀ {new}, answer = .ok new → new.length = count (height block)
  between : ∀ {new}, answer = .ok new → new.length = height block →
    ∀ i, 0 < i → i + 1 < new.length → new[i]? = lines[block.opening.line + i]?

/-- A rewriting of the lines of a block that counts right, and that keeps what is between
the ends of a block it neither folds nor unfolds, answers right on all blocks. -/
theorem answers_map {count : Nat → Nat} {f : List Text → List Text}
    (hcount : ∀ own, 0 < own.length → (f own).length = count own.length)
    (hbetween : ∀ own, (f own).length = own.length →
      ∀ {i}, 0 < i → i + 1 < own.length → (f own)[i]? = own[i]?)
    (lines : List Text) (block : Block) :
    Answers count lines block ((sourceLines lines block).map f) := by
  rcases Nat.lt_or_ge block.closing.line lines.length with hlt | hge
  · rcases Nat.lt_or_ge block.closing.line block.opening.line with hback | hle
    · rw [sourceLines, if_neg (Nat.not_le.2 hlt), if_pos hback]
      constructor <;> simp [Except.map, hlt, hback]
    · obtain ⟨own, hown⟩ : ∃ own, sourceLines lines block = .ok own :=
        ⟨_, sourceLines_eq hle hlt⟩
      have hlen := (eq_of_sourceLines hown).2
      have hheight : own.length = height block := by rw [height]; omega
      have hcounted := hcount own (by omega)
      rw [hown]
      refine ⟨?_, ?_, ?_, ?_, ?_⟩
      · simp [Except.map, hlt]
      · simp [Except.map, hle]
      · simp [Except.map, hlt, hle]
      · rintro new ⟨⟩
        rw [hcounted, hheight]
      · rintro new ⟨⟩ hnew i hpos hi
        rw [hbetween own (hnew.trans hheight.symm) hpos (by omega),
          getElem?_of_sourceLines hown (by omega)]
  · rw [sourceLines, if_pos hge]
    constructor <;> simp [Except.map, hge]

theorem toBraces_eq_map (lines : List Text) (block : Block) :
    toBraces lines block = (sourceLines lines block).map (braced block) := by
  rw [toBraces]
  cases sourceLines lines block <;> rfl

theorem toKeywords_eq_map (lines : List Text) (block : Block) :
    toKeywords lines block = (sourceLines lines block).map (worded block) := by
  rw [toKeywords]
  cases sourceLines lines block with
  | error e => rfl
  | ok own => rcases own with _ | ⟨first, _ | ⟨second, rest⟩⟩ <;> rfl

theorem length_braced (block : Block) (own : List Text) :
    (braced block own).length = if own.length ≤ 3 then 1 else own.length := by
  rw [braced, length_bracesForKeywords, foldLimit]
  split
  · rw [if_neg (by omega), length_bracesForKeywords]
  · rw [if_pos (by omega), List.length_singleton]

theorem length_worded (block : Block) {own : List Text} (h : 0 < own.length) :
    (worded block own).length = if own.length = 1 then 3 else own.length := by
  match own with
  | [line] => rfl
  | first :: second :: rest =>
      rw [worded, List.length_modify, List.length_modify, if_neg (by simp)]
      simp

theorem getElem?_braced (block : Block) {own : List Text}
    (h : (braced block own).length = own.length) {i : Nat} (hpos : 0 < i)
    (hi : i + 1 < own.length) : (braced block own)[i]? = own[i]? := by
  rw [braced] at h ⊢
  split at h <;> rename_i hlong
  · rw [if_pos hlong, bracesForKeywords, List.getElem?_modify_ne _ _ (by omega),
      List.getElem?_modify_ne _ _ (by omega)]
  · rw [List.length_singleton] at h
    omega

theorem getElem?_worded (block : Block) {own : List Text} {i : Nat} (hpos : 0 < i)
    (hi : i + 1 < own.length) : (worded block own)[i]? = own[i]? := by
  match own with
  | first :: second :: rest =>
      rw [worded, List.getElem?_modify_ne _ _ (by omega),
        List.getElem?_modify_ne _ _ (by omega)]
      simp

/-- On all lines and for all blocks, wherever these have their columns: the answers of the
conversions, with the number of lines in them; and no cut is outside of the text or inside of
a character. The style that a block is said to have makes no difference. -/
theorem conversion_outcome (lines : List Text) (block : Block)
    (hcolumn : block.opening.column + 1 < UInt64.size) :
    Answers (fun n => if n ≤ 3 then 1 else n) lines block (toBraces lines block) ∧
    Answers (fun n => if n = 1 then 3 else n) lines block (toKeywords lines block) ∧
    checkedConversion (checkedBraced block) lines block = some (toBraces lines block) ∧
    checkedConversion (checkedWorded block) lines block = some (toKeywords lines block) ∧
    ∀ style, toBraces lines { block with style } = toBraces lines block ∧
      toKeywords lines { block with style } = toKeywords lines block := by
  rw [toBraces_eq_map, toKeywords_eq_map]
  refine ⟨answers_map (fun own _ => length_braced block own)
      (fun _ => getElem?_braced block) lines block,
    answers_map (fun _ => length_worded block)
      (fun _ _ => getElem?_worded block) lines block,
    checkedConversion_eq (fun _ => checkedBraced_eq block) lines block,
    checkedConversion_eq (fun _ => checkedWorded_eq hcolumn) lines block, fun style => ?_⟩
  rw [toBraces_eq_map, toKeywords_eq_map]
  exact ⟨rfl, rfl⟩

/-- A block on one line that opens behind its end. The character that its closing column
is next to has two bytes. -/
theorem conversion_outcome_crossed :
    let lines : List Text := [['é', ' ', '{', '|', 'ü', '|', '}']]
    let block : Block := ⟨.brace, ⟨0, 6⟩, ⟨0, 1⟩⟩
    let new : List Text := [['é', ' ', '{', '|', 'ü', '|', 'd', 'o', ' ', '|', 'ü', '|'],
      [' ', ' '], ['e', 'n', 'd']]
    block.opening.column + 1 < UInt64.size ∧
      checkedConversion (checkedWorded block) lines block = some (.ok new) ∧
      new.length = 3 := by
  intro lines block new
  have hcolumn : block.opening.column + 1 < UInt64.size := by decide
  obtain ⟨-, hanswers, -, hchecked, -⟩ := conversion_outcome lines block hcolumn
  have hnew : toKeywords lines block = .ok new := by decide +kernel
  exact ⟨hcolumn, hchecked.trans (congrArg some hnew), hanswers.length_eq hnew⟩

end Block

end RubyBlocks
