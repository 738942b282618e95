/-!
# Sets of code points as sorted ranges

A Unicode property is a finite set of code points that comes in a few hundred
runs. `Ranges` lists the runs in rising order, and `contains` walks them only
as far as the first run that starts beyond the code point asked for.
-/

namespace RubyBlocks

/-- Runs of code points, each given by its first and last member. Every table of
this library is sorted and its runs are disjoint. -/
abbrev Ranges := List (Nat × Nat)

namespace Ranges

/-- Whether a code point lies in one of the runs. -/
def contains : Ranges → Nat → Bool
  | [], _ => false
  | (first, last) :: rest, n =>
    if n < first then false else decide (n ≤ last) || contains rest n

end Ranges

end RubyBlocks
