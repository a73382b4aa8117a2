import Backtrack.Parser.Basic

/-!
# One parser after another

Each parser starts where the one before it stopped, and the first one to fail makes the whole
fail with its own error.  What differs is only which of the values are kept.

A list of parsers that is put together while a program runs can be of any length.  The memory for
its values is asked for before the first parser runs, so `sequenceIn` is broken off if there are too
many, whatever text follows.
-/

set_option autoImplicit false

namespace Backtrack

namespace Parser

variable {α β γ : Type}

/-- Run `p`, then `q`, and keep both values. -/
def pair (p : Parser α) (q : Parser β) : Parser (α × β) := do
  let a ← p
  let b ← q
  pure (a, b)

/-- Run `p`, then `q`, and keep the value of `p`. -/
def left (p : Parser α) (q : Parser β) : Parser α := do
  let a ← p
  let _ ← q
  pure a

/-- Run `p`, then `q`, and keep the value of `q`. -/
def right (p : Parser α) (q : Parser β) : Parser β := do
  let _ ← p
  q

/-- Run all parsers of a list in order and keep all values. -/
def sequence : List (Parser α) → Parser (List α)
  | [] => pure []
  | p :: ps => do
    let a ← p
    let as ← sequence ps
    pure (a :: as)

/-- The most bytes that can be asked for at once. -/
def maxBytes : Nat := 0x7FFFFFFFFFFFFFFF

/-- Run all parsers of a list in order and keep all values, in memory of `size` bytes for each that
is asked for beforehand. -/
def sequenceIn (size : Nat) (ps : List (Parser α)) : Parser (List α) := fun c =>
  if ps.length * size ≤ maxBytes then sequence ps c else .diverge

/-- Run `p` exactly `n` times. -/
def exactly : Nat → Parser α → Parser (List α)
  | 0, _ => pure []
  | n + 1, p => do
    let a ← p
    let as ← exactly n p
    pure (a :: as)

/-- Run `p` between an opening and a closing parser, and keep its value. -/
def delimitedBy (opening : Parser α) (p : Parser β) (closing : Parser γ) : Parser β := do
  let _ ← opening
  let b ← p
  let _ ← closing
  pure b

/-! ## Memory for the values -/

end Parser

end Backtrack
