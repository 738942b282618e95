import RubyBlocks.Block.Style

/-!
# Why a block cannot be toggled

Lines count from zero here and in the messages.
-/

namespace RubyBlocks

/-- What keeps a block from being found or converted. -/
inductive BlockError where
  /-- There is no such line. -/
  | noSuchLine (requested lineCount : Nat)
  /-- The block's first line comes after its last. -/
  | reversed (startLine endLine : Nat)
  /-- No block opens at or above the line. -/
  | noOpening (cursor : Nat)
  /-- No block closes at or below the line, in the given style if there is one. -/
  | noClosing (cursor : Nat) (style : Option Style)
deriving Repr, DecidableEq

/-- The wording of an error. -/
def BlockError.message : BlockError → String
  | .noSuchLine requested lineCount =>
    s!"line {requested} is out of range (buffer has {lineCount} lines)"
  | .reversed startLine endLine =>
    s!"block starts on line {startLine} after it ends on line {endLine}"
  | .noOpening cursor => s!"no enclosing block found: no block start above line {cursor}"
  | .noClosing cursor style =>
    let label := (style.map Style.name).getD "do/end or brace"
    s!"no enclosing block found: no {label} block end below line {cursor}"

end RubyBlocks
