import RubyBlocks.Block.Conversion

/-!
# Toggling the block around a line
-/

namespace RubyBlocks

/-- New lines for the lines `startLine` to `endLine`. -/
structure Toggled where
  lines : List Text
  startLine : Nat
  endLine : Nat
deriving Repr, DecidableEq

namespace Block

/-- The lines that replace a block when it changes its style. -/
def converted (lines : List Text) (block : Block) : Except BlockError (List Text) :=
  match block.style with
  | .keyword => toBraces lines block
  | .brace => toKeywords lines block

/-- The toggle of the block around the cursor's line. -/
def toggle (lines : List Text) (cursor : Nat) : Except BlockError Toggled := do
  let block ← enclosing lines cursor
  return ⟨← converted lines block, block.opening.line, block.closing.line⟩

end Block

end RubyBlocks
