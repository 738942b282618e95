import RubyBlocks.Document.Basic
import RubyBlocks.Text.Terminal

/-!
# The journal

Work is written down as it happens, each event with a level that says who wants to
read it. Events are values: the pure part of the library says which events an
operation causes, and the outer layer decides which of them to print.

A search that finds nothing leaves no event.

In print an event starts a line, and if it mentions a name with line breaks, the other
lines are indented. Terminal control is left out.
-/

namespace RubyBlocks

/-- How much detail an event is, from the least to the most. -/
inductive Level where
  | error
  | warn
  | info
  | debug
  | trace
deriving Repr, DecidableEq

namespace Level

/-- The levels up to a given one, by number. -/
def rank : Level → Nat
  | error => 1
  | warn => 2
  | info => 3
  | debug => 4
  | trace => 5

/-- How a level is printed. -/
def name : Level → String
  | error => "ERROR"
  | warn => "WARN"
  | info => "INFO"
  | debug => "DEBUG"
  | trace => "TRACE"

end Level

/-- The most detailed level that is printed, if any is. -/
abbrev Threshold := Option Level

namespace Threshold

/-- What is printed unless the user says otherwise. -/
def standard : Threshold := some .info

/-- The threshold that a user names. -/
def ofName? (name : Text) : Option Threshold :=
  [("off", none), ("error", some Level.error), ("warn", some .warn), ("info", some .info),
    ("debug", some .debug), ("trace", some .trace)].findSome? fun (key, threshold) =>
      if key.toList = name then some threshold else none

/-- Whether an event of this level is printed. -/
def admits (threshold : Threshold) (level : Level) : Bool :=
  threshold.any fun most => level.rank ≤ most.rank

end Threshold

/-- Something that happened. -/
inductive Event where
  /-- A marker was found. -/
  | markerFound (side : Side) (marker : Marker)
  /-- A block was converted into `count` lines. -/
  | blockToggled (style : Style) (startLine endLine count : Nat)
  /-- The bytes of a span gave way to `size` others. -/
  | textReplaced (span : Span) (size version : Nat)
  /-- Lines of a file were replaced by `count` others. -/
  | linesReplaced (startLine endLine count : Nat)
  /-- A file was copied before it was overwritten. -/
  | backedUp (path : Text)
  /-- A file was overwritten. -/
  | wrote (path : Text)
  /-- Where the cursor belongs now, counted from one. -/
  | cursorAt (line : Nat)
deriving Repr, DecidableEq

namespace Event

/-- The level of an event. -/
def level : Event → Level
  | markerFound .. => .trace
  | blockToggled .. | textReplaced .. => .debug
  | linesReplaced .. | backedUp .. | wrote .. | cursorAt .. => .info

/-- The wording of an event. People count the lines of a file from one. -/
def message : Event → String
  | markerFound side marker =>
    s!"{side.name} {marker.style.name} marker at {marker.position.line}:{marker.position.column}"
  | blockToggled style startLine endLine count =>
    s!"toggled {style.name} block on lines {startLine}..={endLine} into {count} line(s)" ++
      s!" of {style.other.name}"
  | textReplaced span size version =>
    s!"replaced bytes {span.start}..{span.stop} with {size} bytes, version {version}"
  | linesReplaced startLine endLine count =>
    s!"Replaced lines {startLine + 1}-{endLine + 1} with {count} line(s)"
  | backedUp path => "Backed up original to " ++ path.asString
  | wrote path => "Wrote " ++ path.asString
  | cursorAt line => s!"Cursor line: {line}"

/-- An event as an entry of the journal. -/
def render (event : Event) : String := s!"[{event.level.name}] {event.message}"

/-- What follows a line break inside an entry. -/
def indentation : Text := [' ', ' ', ' ', ' ']

/-- An entry as it is printed. -/
def printed (event : Event) : Text :=
  Terminal.printed
    (event.render.toList.flatMap (fun c => if c = '\n' then c :: indentation else [c]) ++ ['\n'])

end Event

namespace Journal

/-! ## What each operation leaves in the journal -/

/-- The event of a search for a marker. -/
def ofSearch (side : Side) : Except BlockError Marker → List Event
  | .ok marker => [.markerFound side marker]
  | .error _ => []

/-- The events of the search for the block around a line. -/
def ofEnclosing (lines : List Text) (cursor : Nat) : List Event :=
  match Marker.openingAbove lines cursor with
  | .ok opening =>
    .markerFound .opening opening :: ofSearch .closing (Block.closingOf lines cursor opening)
  | .error _ => []

/-- The events of a toggle. -/
def ofToggle (lines : List Text) (cursor : Nat) : List Event :=
  ofEnclosing lines cursor ++
    match Block.enclosing lines cursor, Block.toggle lines cursor with
    | .ok block, .ok toggled =>
      [.blockToggled block.style toggled.startLine toggled.endLine toggled.lines.length]
    | _, _ => []

/-- The events of a toggle in a document. -/
def ofDocument (doc : Document) (cursor : Nat) : List Event :=
  ofToggle doc.lines cursor ++
    match doc.toggle cursor with
    | .ok (_, change) =>
      [.textReplaced (doc.replacedSpan change.toggled) change.inserted.size change.version]
    | .error _ => []

/-- What is printed of the journal when a threshold decides. -/
def printed (threshold : Threshold) (events : List Event) : Text :=
  (events.filter fun event => threshold.admits event.level).flatMap Event.printed

end Journal

end RubyBlocks
