import Backtrack.Charset.Alphabetic
import Backtrack.Charset.CaseFold
import Backtrack.Charset.Category
import Backtrack.Charset.Digit
import Backtrack.Charset.Greek
import Backtrack.Charset.Mark
import Backtrack.Text

/-!
# Sets of characters

The sets that one step of a pattern can match, as their membership tests.  They come from three
places: written out character by character, by the name of a class, and by combining others.
-/

set_option autoImplicit false

namespace Backtrack

/-- A set of characters. -/
abbrev CharSet : Type := Char → Bool

namespace CharSet

/-! ## Combining sets -/

/-- No character. -/
def none : CharSet := fun _ => false

/-- Every character. -/
def all : CharSet := fun _ => true

/-- One character. -/
def single (x : Char) : CharSet := fun c => c == x

/-- The characters from `lo` to `hi`. -/
def between (lo hi : Char) : CharSet := fun c => decide (lo ≤ c) && decide (c ≤ hi)

/-- The characters that are listed. -/
def ofList (s : Text) : CharSet := fun c => s.contains c

/-- The characters of a table. -/
def ofTable (t : Charset.Table) : CharSet := fun c => t.has c.toNat

/-- The characters of either set. -/
def union (a b : CharSet) : CharSet := fun c => a c || b c

/-- The characters of both sets. -/
def inter (a b : CharSet) : CharSet := fun c => a c && b c

/-- The characters of the first set that are not in the second. -/
def diff (a b : CharSet) : CharSet := fun c => a c && !b c

/-- The characters of exactly one of the sets. -/
def symmDiff (a b : CharSet) : CharSet := fun c => a c != b c

/-- The characters that are not in a set. -/
def compl (a : CharSet) : CharSet := fun c => !a c

/-- The characters that are in a set when upper and lower case count as the same. -/
def caseClosed (a : CharSet) : CharSet := fun c =>
  (Charset.caseVariants c.toNat).any fun n => a (Char.ofNat n)

/-- The same for the letters from `a` to `z` alone. -/
def asciiCaseClosed (a : CharSet) : CharSet := fun c => a c || a c.toLower || a c.toUpper

/-! ## Classes -/

/-- The characters that make up words. -/
def word : CharSet := fun c =>
  let n := c.toNat
  Charset.alphabetic.has n || Charset.mark.has n || Charset.decimalDigit.has n ||
    n == 0x5F || n == 0x203F || n == 0x2040 || n == 0x2054 || n == 0xFE33 || n == 0xFE34 ||
    (0xFE4D ≤ n && n ≤ 0xFE4F) || n == 0xFF3F || n == 0x200C || n == 0x200D

/-- The letters and digits of ASCII and the underscore. -/
def asciiWord : CharSet := fun c => c.isAlphanum || c == '_'

/-- The classes with names in square brackets and colons, all within ASCII. -/
def asciiClass? (name : String) : Option CharSet :=
  match name with
  | "alnum" => some Char.isAlphanum
  | "alpha" => some Char.isAlpha
  | "ascii" => some (between '\x00' '\x7f')
  | "blank" => some (ofList ['\t', ' '])
  | "cntrl" => some (union (between '\x00' '\x1f') (single '\x7f'))
  | "digit" => some Char.isDigit
  | "graph" => some (between '!' '~')
  | "lower" => some Char.isLower
  | "print" => some (between ' ' '~')
  | "punct" => some (diff (between '!' '~') Char.isAlphanum)
  | "space" => some (ofList ['\t', '\n', '\x0b', '\x0c', '\r', ' '])
  | "upper" => some Char.isUpper
  | "word" => some asciiWord
  | "xdigit" => some (union Char.isDigit (union (between 'a' 'f') (between 'A' 'F')))
  | _ => Option.none

/-- The form in which the name of a property is looked up: case, blanks, hyphens and underscores do
not count, and neither does an `is` in front. -/
def normalizeName (name : Text) : Text :=
  let s := (name.filter fun c => !(Text.isBlank c || c == '-' || c == '_')).map Char.toLower
  match s with
  | 'i' :: 's' :: r => if r.isEmpty then s else r
  | _ => s

/-- A general category by its normalized name. -/
def category? (name : String) : Option CharSet :=
  match name with
  | "any" => some all
  | "ascii" => some (between '\x00' '\x7f')
  | "l" | "letter" => some (ofTable Charset.letter)
  | "lu" | "uppercaseletter" => some (ofTable Charset.uppercase)
  | "ll" | "lowercaseletter" => some (ofTable Charset.lowercase)
  | "m" | "mark" | "combiningmark" => some (ofTable Charset.mark)
  | "n" | "number" => some (ofTable Charset.number)
  | "nd" | "decimalnumber" | "digit" => some (ofTable Charset.decimalDigit)
  | "p" | "punctuation" | "punct" => some (ofTable Charset.punctuation)
  | "s" | "symbol" => some (ofTable Charset.symbol)
  | _ => Option.none

/-- A script by its normalized name. -/
def script? (name : String) : Option CharSet :=
  match name with
  | "greek" | "grek" => some (ofTable Charset.greek)
  | _ => Option.none

/-- A property that characters have or do not have, by its normalized name. -/
def binaryProperty? (name : String) : Option CharSet :=
  match name with
  | "alphabetic" | "alpha" => some (ofTable Charset.alphabetic)
  | "whitespace" | "wspace" | "space" => some Text.isBlank
  | _ => Option.none

/-- The class that a property name stands for, alone or as a value of a property, and whether the
name asks for the characters outside the class. -/
def property? (name : Text) : Option (CharSet × Bool) :=
  let named (value : Text) (tables : List (String → Option CharSet)) : Option CharSet :=
    tables.findSome? fun table => table (String.ofList (normalizeName value))
  let valued (key value : Text) : Option CharSet :=
    match String.ofList (normalizeName key) with
    | "generalcategory" | "gc" => named value [category?]
    | "script" | "sc" | "scriptextensions" | "scx" => named value [script?]
    | _ => Option.none
  match splitAt? ['!', '='] name, splitAt? [':'] name, splitAt? ['='] name with
  | some (key, value), _, _ => (valued key value).map (·, true)
  | _, some (key, value), _ => (valued key value).map (·, false)
  | _, _, some (key, value) => (valued key value).map (·, false)
  | _, _, _ => (named name [category?, binaryProperty?, script?]).map (·, false)
where
  /-- What stands in front of and behind the first occurrence of `mark`. -/
  splitAt? (mark : Text) : Text → Option (Text × Text)
    | [] => Option.none
    | c :: s =>
      if mark.isPrefixOf (c :: s) then some ([], (c :: s).drop mark.length)
      else (splitAt? mark s).map fun (a, b) => (c :: a, b)

end CharSet

end Backtrack
