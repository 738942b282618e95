import RubyBlocks.Block.Basic

/-!
# From one style to the other

A block is converted from the lines it spans. Turning `do` and `end` into braces
swaps the two words, and a block of at most three lines is then folded onto one.
Turning braces into `do` and `end` unfolds a block that stands on one line onto
three, and moves the block's arguments behind the `do`.

The conversions take any block, also one that no search would find: columns past the
end of a line select nothing, and a word that is not there is not swapped.

The arguments of a block are taken to be whatever stands between the first and the
last vertical bar of its first line, both included.
-/

namespace RubyBlocks.Block

/-! ## The lines of a block -/

/-- The lines that a block spans. -/
def sourceLines (lines : List Text) (block : Block) : Except BlockError (List Text) :=
  if lines.length ≤ block.closing.line then
    .error (.noSuchLine block.closing.line lines.length)
  else if block.closing.line < block.opening.line then
    .error (.reversed block.opening.line block.closing.line)
  else
    .ok ((lines.take (block.closing.line + 1)).drop block.opening.line)

/-! ## To braces -/

/-- The line with the first keyword of this side, at or after the column, replaced. -/
def replaceKeyword (side : Side) (column : Nat) (replacement line : Text) : Text :=
  match Marker.find side .keyword line column with
  | some k => line.take k ++ replacement ++ line.drop (k + side.keyword.length)
  | none => line

/-- The lines with the keywords at the two ends of the block swapped for braces. The
closing one goes first: on a line that holds both, swapping the other first would
move it. -/
def bracesForKeywords (block : Block) (lines : List Text) : List Text :=
  (lines.modify (lines.length - 1) (replaceKeyword .closing block.closing.column ['}'])).modify 0
    (replaceKeyword .opening block.opening.column ['{'])

/-- A block of keywords with at most this many lines becomes a single line. -/
def foldLimit : Nat := 3

/-- The lines on one line: joined by spaces, every run of blanks squeezed to one
space, behind the indentation of the first. -/
def fold (lines : List Text) : Text :=
  (lines.head?.map Text.indentation).getD [] ++
    (Text.squeeze (List.intercalate [' '] lines)).dropWhile Text.isBlank

/-- The lines that replace a block of keywords. -/
def toBraces (lines : List Text) (block : Block) : Except BlockError (List Text) := do
  let swapped := bracesForKeywords block (← sourceLines lines block)
  return if foldLimit < swapped.length then swapped else [fold swapped]

/-! ## To keywords -/

/-- The part of a text from its first vertical bar to its last, if it has two. -/
def barred? (text : Text) : Option Text :=
  let part := Text.dropTrailing (· != '|') (text.dropWhile (· != '|'))
  if 2 ≤ part.length then some part else none

/-- The block arguments on a line. They do not extend over a line feed. -/
def arguments? (line : Text) : Option Text := (line.splitOn '\n').findSome? barred?

/-- The line that opens the block with keywords: what stands before the brace, `do`,
and the arguments. -/
def keywordOpening (line : Text) (column : Nat) (arguments : Option Text) : Text :=
  line.take column ++ Side.opening.keyword ++ (arguments.map (' ' :: ·)).getD []

/-- What stands between the braces of a block on one line, without its arguments and
without blanks around it. -/
def inlineBody (line : Text) (block : Block) (arguments : Option Text) : Text :=
  let body := Text.trim (Text.slice line (block.opening.column + 1) block.closing.column)
  match arguments with
  | some list => Text.trim (Text.eraseFirst list body)
  | none => body

/-- How far the body of an unfolded block is indented, beyond the block itself. -/
def innerIndent : Text := [' ', ' ']

/-- The lines that replace a block of braces. -/
def toKeywords (lines : List Text) (block : Block) : Except BlockError (List Text) := do
  match ← sourceLines lines block with
  | [line] =>
    let indent := Text.indentation line
    return [keywordOpening line block.opening.column (arguments? line),
      indent ++ innerIndent ++ inlineBody line block (arguments? line),
      indent ++ Side.closing.keyword]
  | source =>
    let opened := source.modify 0 fun line =>
      keywordOpening line block.opening.column (arguments? line)
    return opened.modify (opened.length - 1) fun line =>
      line.take block.closing.column ++ Side.closing.keyword

end RubyBlocks.Block
