import Backtrack.Pattern.Regex

/-!
# The flags of a pattern

A pattern can change how the rest of it is read: `i` makes case irrelevant, `m` makes `^` and `$`
work line by line, `s` lets the point match a line feed, `U` exchanges greedy and lazy, `u` turns
the Unicode classes on and off, `R` counts a carriage return as the end of a line, and `x` allows
blanks and comments in the pattern.
-/

set_option autoImplicit false

namespace Backtrack

namespace Pattern

/-- How a pattern is read. -/
structure Flags where
  ignoreCase : Bool
  multiLine : Bool
  dotAll : Bool
  swapGreed : Bool
  unicode : Bool
  crlf : Bool
  verbose : Bool

namespace Flags

/-- The flags with which every pattern begins. -/
def default : Flags := ⟨false, false, false, false, true, false, false⟩

/-- Set the flag with a given letter. -/
def set? (f : Flags) (on : Bool) (letter : Char) : Option Flags :=
  match letter with
  | 'i' => some { f with ignoreCase := on }
  | 'm' => some { f with multiLine := on }
  | 's' => some { f with dotAll := on }
  | 'U' => some { f with swapGreed := on }
  | 'u' => some { f with unicode := on }
  | 'R' => some { f with crlf := on }
  | 'x' => some { f with verbose := on }
  | _ => none

/-- Read the letters of a group of flags, up to the colon or the bracket that ends them.  No letter
may occur twice, and the minus sign at most once and not at the end.  `seen` holds the letters so
far, `off` says whether the minus sign has been read, and `dangling` whether it was read last. -/
def read? (f : Flags) (seen : Text) (off dangling : Bool) : Text → Option (Flags × Bool × Text)
  | [] => none
  | c :: s =>
    if c == ':' || c == ')' then
      if dangling then none else some (f, seen.isEmpty, c :: s)
    else if c == '-' then
      if off then none else read? f seen true true s
    else if seen.contains c then none
    else
      match f.set? (!off) c with
      | some f => read? f (c :: seen) off false s
      | none => none

/-- Drop blanks and comments in front of what is next; inside a comment all up to the end of the
line is dropped. -/
def dropBlanks (comment : Bool) : Text → Text
  | [] => []
  | c :: s =>
    if comment then dropBlanks (c != '\n') s
    else if Text.isBlank c then dropBlanks false s
    else if c == '#' then dropBlanks true s
    else c :: s

/-- What comes next in a pattern. -/
def skip (f : Flags) (s : Text) : Text := if f.verbose then dropBlanks false s else s

/-- A set of characters, extended to both cases if case is irrelevant. -/
def fold (f : Flags) (s : CharSet) : CharSet :=
  if f.ignoreCase then (if f.unicode then s.caseClosed else s.asciiCaseClosed) else s

/-- The characters that make up words. -/
def word (f : Flags) : CharSet := if f.unicode then .word else .asciiWord

/-- The decimal digits. -/
def digit (f : Flags) : CharSet := if f.unicode then .ofTable Charset.decimalDigit else Char.isDigit

/-- The blank characters. -/
def blank (f : Flags) : CharSet :=
  if f.unicode then Text.isBlank else .ofList ['\t', '\n', '\x0b', '\x0c', '\r', ' ']

/-- The complement of a set of characters.  Without the Unicode classes it would hold single bytes
that are no characters, and is refused. -/
def compl? (f : Flags) (s : CharSet) : Option CharSet := if f.unicode then some s.compl else none

end Flags

end Pattern

end Backtrack
