import RubyBlocks.Block.Error
import RubyBlocks.Block.Marker

/-!
# The block around a line

The block that a line belongs to is found by looking outward from it: upward for
the nearest line that carries an opening marker, then downward for the nearest
that carries a closing marker of the same style. On a line that carries markers of
both styles the keyword wins, wherever the two stand.

When the block opens on the cursor's own line, its end must come after the opening
marker, so that line is searched from the next column on; every other line is
searched from its beginning.
-/

namespace RubyBlocks

/-- A place in a list of lines. Both count from zero, and columns count characters. -/
structure Position where
  line : Nat
  column : Nat
deriving Repr, DecidableEq

/-- A marker that was found: where it stands and of which style it is. -/
structure Marker where
  position : Position
  style : Style
deriving Repr, DecidableEq

/-- A block: its style and the places of its two delimiters. -/
structure Block where
  style : Style
  opening : Position
  closing : Position
deriving Repr, DecidableEq

namespace Marker

/-- Whether a search limited to one style, or to none, looks for this style. -/
def allows (only : Option Style) (style : Style) : Bool := only.all (· == style)

/-- The marker that a search takes on one line, in a search from column `start`. -/
def onLine? (side : Side) (only : Option Style) (index : Nat) (line : Text) (start : Nat) :
    Option Marker :=
  (Style.searchOrder.filter (allows only)).findSome? fun style =>
    (find side style (stripTildes line) start).map fun column => ⟨⟨index, column⟩, style⟩

/-- The nearest opening marker on line `index` or above it. -/
def openingUpFrom? (lines : List Text) : (index : Nat) → Option Marker
  | 0 => lines[0]?.bind (onLine? .opening none 0 · 0)
  | n + 1 =>
    (lines[n + 1]?.bind (onLine? .opening none (n + 1) · 0)).or (openingUpFrom? lines n)

/-- The nearest closing marker on the given lines, of which the first is line `index`
and is searched from column `start`. -/
def closingDownFrom? (only : Option Style) (index start : Nat) : List Text → Option Marker
  | [] => none
  | line :: rest =>
    (onLine? .closing only index line start).or (closingDownFrom? only (index + 1) 0 rest)

/-- The nearest opening marker at or above the cursor's line. -/
def openingAbove (lines : List Text) (cursor : Nat) : Except BlockError Marker :=
  if lines.length ≤ cursor then .error (.noSuchLine cursor lines.length)
  else
    match openingUpFrom? lines cursor with
    | some marker => .ok marker
    | none => .error (.noOpening cursor)

/-- The nearest closing marker at or below the cursor's line, which is searched from
column `start`. With a style given, markers of the other style are passed over. -/
def closingBelow (lines : List Text) (cursor start : Nat) (only : Option Style) :
    Except BlockError Marker :=
  if lines.length ≤ cursor then .error (.noSuchLine cursor lines.length)
  else
    match closingDownFrom? only cursor start (lines.drop cursor) with
    | some marker => .ok marker
    | none => .error (.noClosing cursor only)

end Marker

namespace Block

/-- The column from which the cursor's line is searched for the end of a block that
opens at `opening`. -/
def closingStart (opening : Position) (cursor : Nat) : Nat :=
  if opening.line = cursor then opening.column + 1 else 0

/-- The closing marker that goes with an opening one. -/
def closingOf (lines : List Text) (cursor : Nat) (opening : Marker) : Except BlockError Marker :=
  Marker.closingBelow lines cursor (closingStart opening.position cursor) (some opening.style)

/-- The block around the cursor's line. -/
def enclosing (lines : List Text) (cursor : Nat) : Except BlockError Block := do
  let opening ← Marker.openingAbove lines cursor
  let closing ← closingOf lines cursor opening
  return ⟨opening.style, opening.position, closing.position⟩

end Block

end RubyBlocks
