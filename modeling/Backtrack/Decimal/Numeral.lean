import Backtrack.Decimal.Shortest
import Backtrack.Text

/-!
# Numerals

Numbers as text.  A numeral is a run of decimal digits, or such a run around a point; reading one
gives the float closest to the number it names.  Writing a float uses the shortest decimal that
reads back, laid out without an exponent however large or small it is, and without a point if it
is a whole number.
-/

set_option autoImplicit false

namespace Backtrack

namespace Numeral

/-- The decimal digits. -/
def digitChars : Text := ['0', '1', '2', '3', '4', '5', '6', '7', '8', '9']

/-- Whether a character is a decimal digit. -/
def isDigit (c : Char) : Bool := digitChars.contains c

/-- The value of a decimal digit. -/
def digitValue (c : Char) : Nat := c.toNat - '0'.toNat

/-- The number that a run of digits names. -/
def value (s : Text) : Nat := s.foldl (fun n c => 10 * n + digitValue c) 0

/-- The digits of a number. -/
def ofNat (n : Nat) : Text := Nat.toDigits 10 n

/-- The digits of a number, with a sign if it is negative. -/
def ofInt (i : Int) : Text := if i < 0 then '-' :: ofNat i.natAbs else ofNat i.natAbs

/-- The float closest to the number that a numeral names. -/
def toFloat (s : Text) : Float :=
  let whole := s.takeWhile (· != '.')
  let fraction := (s.dropWhile (· != '.')).drop 1
  Float.ofScientific (value (whole ++ fraction)) true fraction.length

end Numeral

/-- Lay out a decimal without an exponent. -/
def Decimal.layout (d : Decimal) : Text :=
  let s := Numeral.ofNat d.digits
  if 0 ≤ d.exponent then s ++ List.replicate d.exponent.toNat '0'
  else
    let places := (-d.exponent).toNat
    let s := List.replicate (places + 1 - s.length) '0' ++ s
    s.take (s.length - places) ++ '.' :: s.drop (s.length - places)

/-- The text of a float. -/
def Numeral.ofFloat (x : Float) : Text :=
  if x.isNaN then ['N', 'a', 'N']
  else
    let bits := x.toBits
    let sign : Text := if bits >>> 63 == 1 then ['-'] else []
    let magnitude := bits &&& 0x7FFFFFFFFFFFFFFF
    if magnitude == 0x7FF0000000000000 then sign ++ ['i', 'n', 'f']
    else if magnitude == 0 then sign ++ ['0']
    else sign ++ (Dyadic.ofBits magnitude).shortest.layout

end Backtrack
