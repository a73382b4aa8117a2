import Backtrack.Decimal.Numeral
import Backtrack.Parser.Char
import Backtrack.Parser.Choice
import Backtrack.Parser.Repetition
import Backtrack.Parser.Sequence

/-!
# Reading numbers

All of these take the longest run of digits there is and then decide: a whole number too large for
its type is a mismatch, and never cut short to one that fits.  A decimal number has digits after
its point, and may have none before.
-/

set_option autoImplicit false

namespace Backtrack

namespace Parser

variable {α : Type}

/-- Read one decimal digit. -/
def digit : Parser Char := oneOf Numeral.digitChars

/-- Read a run of decimal digits. -/
def digits : Parser String := joined (many1 digit)

/-- Read the number that a run of digits names. -/
def magnitude : Parser Nat := Parser.map (fun s => Numeral.value s.toList) digits

/-- Read a whole number that fits into 64 bits without a sign. -/
def posint : Parser Nat := filter (fun n => decide (n < 0x10000000000000000)) magnitude

/-- Run `p` after an optional sign, and negate its value if the sign is a minus. -/
def signed (negate : α → α) (p : Parser α) : Parser α := do
  let sign ← optional (oneOf ['+', '-'])
  let v ← p
  pure (if sign = Option.some '-' then negate v else v)

/-- Read a whole number that fits into 64 bits with a sign. -/
def integer : Parser Int :=
  filter (fun i => decide (-0x8000000000000000 ≤ i ∧ i < 0x8000000000000000))
    (signed Int.neg (Parser.map Int.ofNat magnitude))

/-- Read a point with digits after it and perhaps before it. -/
def pointed : Parser String := do
  let whole ← optional digits
  let _ ← char '.'
  let fraction ← digits
  pure (whole.getD "" ++ "." ++ fraction)

/-- Read the text of a decimal number without a sign. -/
def numeral : Parser String := firstOf [pointed, digits]

/-- Read a decimal number without a sign. -/
def unsignedDecimal : Parser Float := Parser.map (fun s => Numeral.toFloat s.toList) numeral

/-- Read a decimal number. -/
def decimal : Parser Float := signed Float.neg unsignedDecimal

end Parser

end Backtrack
