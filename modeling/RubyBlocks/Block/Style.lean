import RubyBlocks.Text.Basic

/-!
# The two styles of a block

A block is delimited either by the words `do` and `end` or by a pair of braces. The
two mean the same, and turning one into the other is what this library is for.
-/

namespace RubyBlocks

/-- How a block is delimited. -/
inductive Style where
  /-- `do` and `end`. -/
  | keyword
  /-- A pair of braces. -/
  | brace
deriving Repr, DecidableEq

namespace Style

/-- The other style. -/
def other : Style → Style
  | keyword => brace
  | brace => keyword

/-- The styles in the order in which they are looked for on a line. -/
def searchOrder : List Style := [keyword, brace]

/-- What the style is called in messages. -/
def name : Style → String
  | keyword => "do/end"
  | brace => "brace"

end Style

/-- One of the two ends of a block. -/
inductive Side where
  | opening
  | closing
deriving Repr, DecidableEq

namespace Side

/-- The word that delimits this end of a block. -/
def keyword : Side → Text
  | opening => ['d', 'o']
  | closing => ['e', 'n', 'd']

/-- What the end is called in the journal. -/
def name : Side → String
  | opening => "Start"
  | closing => "End"

end Side

end RubyBlocks
