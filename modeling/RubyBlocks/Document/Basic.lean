import RubyBlocks.Block.Toggle
import RubyBlocks.Document.LineEnding
import RubyBlocks.Text.Utf8

/-!
# Documents

A document is a text that is being edited, with a selection, the number of edits so
far and the line ending it was found to use. The only edit is the toggle of a block:
it replaces whole lines and touches nothing before or after them.

The new lines end the way the replaced ones did, so a text that mixes line endings
keeps its mixture elsewhere. Only a replaced part without any line feed, the last
line of a text, leaves the choice to the document.

Selections and reported changes are byte offsets into the UTF-8 form of the text.
-/

namespace RubyBlocks

/-- A range of byte offsets, from `start` up to and without `stop`. -/
structure Span where
  start : Nat
  stop : Nat
deriving Repr, DecidableEq

/-- How many bytes a range holds. -/
def Span.size (span : Span) : Nat := span.stop - span.start

/-- A text being edited. -/
structure Document where
  text : Text
  selection : Span
  /-- How many toggles were applied. -/
  version : Nat
  /-- Found when the document was opened, and kept. -/
  lineEnding : LineEnding
deriving Repr, DecidableEq

/-- What a toggle did to a document. -/
structure Change where
  /-- The bytes that the new lines take in the new text. -/
  inserted : Span
  selection : Span
  version : Nat
  toggled : Toggled
deriving Repr, DecidableEq

namespace Document

/-- A new document, with nothing selected after its last character. -/
def ofText (text : Text) : Document :=
  let stop := Text.byteLength text
  ⟨text, ⟨stop, stop⟩, 0, LineEnding.detect text⟩

/-- The document in a file with these bytes. -/
def ofBytes (bytes : Bytes) : Except Utf8.Fault Document := (Utf8.decode bytes).map ofText

/-- The bytes to write to a file. -/
def toBytes (doc : Document) : Bytes := Utf8.encode doc.text

/-- The lines of the document, without their endings. -/
def lines (doc : Document) : List Text := Text.lines doc.text

/-- The document with another selection. No range is refused. -/
def select (doc : Document) (selection : Span) : Document := { doc with selection }

/-- Whether two documents have the same text, selection and version. The line ending
they were opened with does not count. -/
def agrees (a b : Document) : Bool :=
  a.text == b.text && a.selection == b.selection && a.version == b.version

/-! ## Toggling

`before`, `replaced` and `after` cut the text at the first and behind the last line
of a toggle. -/

/-- The text before the toggled lines. -/
def before (doc : Document) (toggled : Toggled) : Text :=
  ((Text.rawLines doc.text).take toggled.startLine).flatten

/-- The text of the toggled lines, with their endings. -/
def replaced (doc : Document) (toggled : Toggled) : Text :=
  (((Text.rawLines doc.text).take (toggled.endLine + 1)).drop toggled.startLine).flatten

/-- The text after the toggled lines. -/
def after (doc : Document) (toggled : Toggled) : Text :=
  ((Text.rawLines doc.text).drop (toggled.endLine + 1)).flatten

/-- The line ending for the new lines. -/
def endingFor (doc : Document) (replaced : Text) : LineEnding :=
  if replaced.contains '\n' then LineEnding.detect replaced else doc.lineEnding

/-- The text that takes the place of the replaced one. It ends in a line ending exactly
when the replaced text did. -/
def replacement (doc : Document) (toggled : Toggled) : Text :=
  let old := doc.replaced toggled
  let ending := (doc.endingFor old).text
  List.intercalate ending toggled.lines ++
    if old.getLast? = some '\n' then ending else []

/-- A selection after the bytes of `replaced` were exchanged for `inserted` others. One
behind them moves along, one in front stays, and one that overlaps them collapses.

The new bytes are added before the old ones are taken off. The other order gives the same
for a selection that does not run backward (`moveSelection_behind`). One that does may stop
at an offset smaller than the number of the old bytes; that one moves by the difference,
too, though not beyond the start of the text. -/
def moveSelection (selection replaced : Span) (inserted : Nat) : Span :=
  if replaced.stop ≤ selection.start then
    ⟨selection.start + inserted - replaced.size, selection.stop + inserted - replaced.size⟩
  else if selection.stop ≤ replaced.start then selection
  else ⟨replaced.start, replaced.start⟩

/-- The bytes of the text that a toggle replaces. -/
def replacedSpan (doc : Document) (toggled : Toggled) : Span :=
  let start := Text.byteLength (doc.before toggled)
  ⟨start, start + Text.byteLength (doc.replaced toggled)⟩

/-- The selection after a toggle. A block that becomes one line takes the cursor to the
start of that line. -/
def selectionAfter (doc : Document) (toggled : Toggled) : Span :=
  let span := doc.replacedSpan toggled
  if toggled.lines.length = 1 then ⟨span.start, span.start⟩
  else moveSelection doc.selection span (Text.byteLength (doc.replacement toggled))

/-- The document after a toggle. -/
def apply (doc : Document) (toggled : Toggled) : Document :=
  { doc with
    text := doc.before toggled ++ doc.replacement toggled ++ doc.after toggled
    selection := doc.selectionAfter toggled
    version := doc.version + 1 }

/-- What applying a toggle changes. -/
def change (doc : Document) (toggled : Toggled) : Change :=
  let start := (doc.replacedSpan toggled).start
  let result := doc.apply toggled
  ⟨⟨start, start + Text.byteLength (doc.replacement toggled)⟩, result.selection,
    result.version, toggled⟩

/-- The toggle of the block around a line, without applying it. -/
def preview (doc : Document) (cursor : Nat) : Except BlockError Toggled :=
  Block.toggle doc.lines cursor

/-- The document with the block around a line toggled, and what that changed. -/
def toggle (doc : Document) (cursor : Nat) : Except BlockError (Document × Change) :=
  (doc.preview cursor).map fun toggled => (doc.apply toggled, doc.change toggled)

end Document

end RubyBlocks
