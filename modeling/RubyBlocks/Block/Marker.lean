import RubyBlocks.Block.Style
import RubyBlocks.Text.Classes

/-!
# Markers on a line

A marker is a delimiter at a column of one line. Nothing is parsed: whether a
delimiter stands at a column is decided by the characters around it.

* A keyword is a marker where it stands as a whole word.
* An opening brace is a marker unless it is the first character of the line or
  follows a `#`, which makes it an interpolation.
* A closing brace is a marker only as the last character of the line.

`find` looks for the first column, at or after a given one, that carries a marker.
The character before a keyword is looked at even when it lies before the column
where the search starts. For an opening brace the character before it has to be
part of the searched piece, so the first column that counts is one further on.
-/

namespace RubyBlocks.Marker

/-- Whether a marker stands at the place with the character `before` on its left, if
there is one, and the text `rest` from it on. -/
def standsAt (side : Side) (style : Style) (before : Option Char) (rest : Text) : Bool :=
  match style, side with
  | .keyword, side =>
    side.keyword.isPrefixOf rest && !before.any Text.isWord &&
      !(rest.drop side.keyword.length).head?.any Text.isWord
  | .brace, .opening => rest.head? == some '{' && before.any (· != '#')
  | .brace, .closing => rest == ['}']

/-- The first column of a search that starts at column `start`. -/
def firstColumn (side : Side) (style : Style) (start : Nat) : Nat :=
  match style, side with
  | .brace, .opening => start + 1
  | _, _ => start

/-- The first marker at or after column `least`, on a line of which `rest` is left
from column `column` on, with `before` to its left. -/
def findFrom (side : Side) (style : Style) (least : Nat) (before : Option Char) (column : Nat)
    (rest : Text) : Option Nat :=
  if least ≤ column && standsAt side style before rest then some column
  else
    match rest with
    | [] => none
    | c :: rest => findFrom side style least (some c) (column + 1) rest

/-- The column of the first marker on a line, in a search from column `start`. -/
def find (side : Side) (style : Style) (line : Text) (start : Nat) : Option Nat :=
  findFrom side style (firstColumn side style start) none 0 line

/-- The line without the tildes at its end, which no search for a block looks at. -/
def stripTildes (line : Text) : Text := Text.dropTrailing (· == '~') line

end RubyBlocks.Marker
