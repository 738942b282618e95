import RubyBlocks.Text.Basic
import RubyBlocks.Text.Alphabetic
import RubyBlocks.Text.Mark
import RubyBlocks.Text.Numeric
import RubyBlocks.Text.Extending
import RubyBlocks.Text.Unseen
import RubyBlocks.Text.Recent

/-!
# Classes of characters

Four questions are asked of a character. Is it blank, so that indentation,
trimming and the folding of several lines into one may drop it? Can it belong to
a word, so that a `do` next to it is part of a longer name? May it stand in the
name of a variable? And can it be shown as it is in a message?

All four answer for the whole of Unicode.
-/

namespace RubyBlocks.Text

/-- The Unicode property `White_Space`. -/
def blank : Ranges :=
  [(0x9, 0xD), (0x20, 0x20), (0x85, 0x85), (0xA0, 0xA0), (0x1680, 0x1680), (0x2000, 0x200A),
   (0x2028, 0x2029), (0x202F, 0x202F), (0x205F, 0x205F), (0x3000, 0x3000)]

/-- Connector punctuation, the underscore being the best known, and the two
joiners that hold a word together without showing. -/
def connector : Ranges :=
  [(0x5F, 0x5F), (0x200C, 0x200D), (0x203F, 0x2040), (0x2054, 0x2054), (0xFE33, 0xFE34),
   (0xFE4D, 0xFE4F), (0xFF3F, 0xFF3F)]

/-- The Hangul fillers. They are letters, and they leave no ink. -/
def filler : Ranges := [(0x115F, 0x1160), (0x3164, 0x3164), (0xFFA0, 0xFFA0)]

/-- The halfwidth sound marks. They belong to the kana in front of them, and still
take a place of their own. -/
def soundMark : Ranges := [(0xFF9E, 0xFF9F)]

/-- Whether a character is white space. -/
def isBlank (c : Char) : Bool := blank.contains c.toNat

/-- Whether a character can be part of a word: letters, marks, decimal digits and
connectors, the most recent ones excepted. -/
def isWord (c : Char) : Bool :=
  (alphabetic.contains c.toNat || mark.contains c.toNat || decimalDigit.contains c.toNat ||
    connector.contains c.toNat) && !recent.contains c.toNat

/-- Whether a character can be part of a variable's name: letters, numbers of any
kind and the underscore. -/
def isNameChar (c : Char) : Bool :=
  alphabetic.contains c.toNat || number.contains c.toNat || c == '_'

/-- Whether a character merges with the one in front of it. -/
def isMerging (c : Char) : Bool := extending.contains c.toNat && !soundMark.contains c.toNat

/-- Whether a character can be shown as it is: it has a glyph of its own, or it is
the plain space. -/
def isShowable (c : Char) : Bool :=
  c == ' ' || !(isMerging c || unseen.contains c.toNat || filler.contains c.toNat)

/-! ## Blanks at the ends and inside -/

/-- The blanks a line starts with. -/
def indentation (line : Text) : Text := line.takeWhile isBlank

/-- The text without the blanks at its two ends. -/
def trim (text : Text) : Text := dropTrailing isBlank (text.dropWhile isBlank)

/-- Writes every run of blanks as one space; `inRun` says that the run in progress
has its space already. -/
def squeezeFrom (inRun : Bool) : Text → Text
  | [] => []
  | c :: rest =>
    if isBlank c then
      if inRun then squeezeFrom true rest else ' ' :: squeezeFrom true rest
    else c :: squeezeFrom false rest

/-- The text with every run of blanks written as one space. -/
def squeeze (text : Text) : Text := squeezeFrom false text

end RubyBlocks.Text
