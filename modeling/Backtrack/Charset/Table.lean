/-!
# Tables of characters

A class of characters that a standard defines by listing them is kept as a table of ranges of code
points, in increasing order.
-/

set_option autoImplicit false

namespace Backtrack

namespace Charset

/-- Ranges of code points, ends included, in increasing order and without overlaps. -/
abbrev Table : Type := List (Nat × Nat)

/-- Whether a code point lies in one of the ranges of a table.  The ranges are in order, so the
search ends at the first one that begins later. -/
def Table.has : Table → Nat → Bool
  | [], _ => false
  | (lo, hi) :: t, n => decide (lo ≤ n) && (decide (n ≤ hi) || Table.has t n)

end Charset

end Backtrack
