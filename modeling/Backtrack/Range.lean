import Backtrack.Cursor

/-!
# Ranges

A range is a pair of byte offsets, to be read over some source text.  The offsets are not checked:
they may be out of order, lie beyond the end, or fall inside a character.  A range like that is
still a value that can be measured and combined with others; it is only that it covers no text.
-/

set_option autoImplicit false

namespace Backtrack

/-- A pair of byte offsets into a source text. -/
structure Range where
  /-- The offset of the first byte. -/
  start : Nat
  /-- The offset just after the last byte. -/
  stop : Nat
deriving DecidableEq, Repr

namespace Range

/-- The range from one cursor to another. -/
def between (a b : Cursor) : Range := ⟨a.position, b.position⟩

/-- The range of no text at a cursor. -/
def empty (c : Cursor) : Range := between c c

/-- The number of bytes covered, which is zero if the offsets are out of order. -/
def length (r : Range) : Nat := r.stop - r.start

/-- Whether no byte is covered. -/
def isEmpty (r : Range) : Bool := decide (r.stop ≤ r.start)

/-- The text that the range covers in `source`; it is empty if one of the offsets is not a place
in the source or if they are out of order. -/
def text (r : Range) (source : Text) : Text := (Text.slice? r.start r.stop source).getD []

/-- The empty range where `r` begins. -/
def startOf (r : Range) : Range := ⟨r.start, r.start⟩

/-- The empty range where `r` ends. -/
def endOf (r : Range) : Range := ⟨r.stop, r.stop⟩

/-- From the beginning of `r` to the end of `s`. -/
def outer (r s : Range) : Range := ⟨r.start, s.stop⟩

/-- From the end of `r` to the beginning of `s`. -/
def inner (r s : Range) : Range := ⟨r.stop, s.start⟩

end Range

/-- A value together with the range of text it was read from. -/
structure Ranged (α : Type) where
  /-- What was read. -/
  value : α
  /-- Where it was read. -/
  range : Range
deriving DecidableEq, Repr

end Backtrack
