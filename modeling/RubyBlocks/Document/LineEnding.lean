import RubyBlocks.Text.Basic

/-!
# Line endings

A line ends at every line feed. A carriage return in front of the line feed belongs
to the ending and not to the line, so a text is cut into its raw lines, each with
its ending, and a line is what is left of a raw line without it.
-/

namespace RubyBlocks

/-- What ends the lines of a text. -/
inductive LineEnding where
  /-- A line feed. -/
  | lf
  /-- A carriage return and a line feed. -/
  | crlf
deriving Repr, DecidableEq

namespace LineEnding

/-- The characters of a line ending. -/
def text : LineEnding → Text
  | lf => ['\n']
  | crlf => ['\r', '\n']

/-- The ending that a text is taken to use: one carriage return before a line feed
decides for the longer one. -/
def detect (source : Text) : LineEnding :=
  if Text.hasPart crlf.text source then crlf else lf

end LineEnding

namespace Text

/-- The lines of a text, each with the line feed that ends it. Only the last has none,
and it is empty when the text ends in a line feed. -/
def rawLines : Text → List Text
  | [] => [[]]
  | c :: rest =>
    if c = '\n' then [c] :: rawLines rest
    else
      match rawLines rest with
      | [] => [[c]]
      | line :: lines => (c :: line) :: lines

/-- A raw line without its ending. A carriage return at the end of the last line goes
as well. -/
def withoutEnding (raw : Text) : Text := dropFinal '\r' (dropFinal '\n' raw)

/-- The lines of a text, without their endings. -/
def lines (source : Text) : List Text := (rawLines source).map withoutEnding

end Text

end RubyBlocks
