import Backtrack.Pattern.Flags

/-!
# Escapes

What a backslash in a pattern stands for: a character that would otherwise have a meaning, a
character by its code point, a class, or a condition on the place.  References to what a group
has matched are not among them.
-/

set_option autoImplicit false

namespace Backtrack

namespace Pattern

/-- What is written in a pattern at one place. -/
inductive Atom where
  /-- A character that stands for itself. -/
  | literal (c : Char)
  /-- A class of characters. -/
  | charClass (s : CharSet)
  /-- A condition on the place. -/
  | look (l : Look)

namespace Escape

/-- The value of a hexadecimal digit. -/
def hexValue? (c : Char) : Option Nat :=
  if c.isDigit then some (c.toNat - '0'.toNat)
  else if 'a' ≤ c ∧ c ≤ 'f' then some (c.toNat - 'a'.toNat + 10)
  else if 'A' ≤ c ∧ c ≤ 'F' then some (c.toNat - 'A'.toNat + 10)
  else none

/-- The character with a given code point. -/
def charOf? (n : Nat) : Option Char := if n.isValidChar then some (Char.ofNat n) else none

/-- Read exactly `n` hexadecimal digits after a value `v`. -/
def hexDigits? (f : Flags) : Nat → Nat → Text → Option (Char × Text)
  | 0, v, s => (charOf? v).map (·, s)
  | _ + 1, _, [] => none
  | n + 1, v, c :: s =>
    match hexValue? c with
    | some d => hexDigits? f n (16 * v + d) (f.skip s)
    | none => none

/-- Read what is written up to a closing curly bracket. -/
def braced? (f : Flags) : Nat → Text → Option (Text × Text)
  | 0, _ => none
  | _ + 1, [] => none
  | n + 1, c :: s =>
    if c == '\x7d' then some ([], s)
    else (braced? f n (f.skip s)).map fun (name, rest) => (c :: name, rest)

/-- The value of hexadecimal digits. -/
def hexNumber? (s : Text) : Option Nat :=
  if s.isEmpty then none
  else s.foldl (fun v c => v.bind fun v => (hexValue? c).map (16 * v + ·)) (some 0)

/-- Read a code point, in `n` digits or in curly brackets.  Two digits stand for a byte, which
without the Unicode classes has to be a character by itself. -/
def codePoint? (f : Flags) (n : Nat) (s : Text) : Option (Char × Text) :=
  match f.skip s with
  | '\x7b' :: s =>
    (braced? f (s.length + 1) (f.skip s)).bind fun (digits, rest) =>
      ((hexNumber? digits).bind charOf?).map (·, f.skip rest)
  | s =>
    (hexDigits? f n 0 s).bind fun (x, rest) =>
      if n = 2 ∧ !f.unicode ∧ 0x80 ≤ x.toNat then none else some (x, rest)

/-- A class, extended to both cases and complemented as asked. -/
def classOf? (f : Flags) (negated : Bool) (s : CharSet) : Option CharSet :=
  if negated then f.compl? (f.fold s) else some (f.fold s)

/-- Read the name of a class, one letter or in curly brackets. -/
def property? (f : Flags) (negated : Bool) (s : Text) : Option (CharSet × Text) :=
  if !f.unicode then none
  else
    match f.skip s with
    | [] => none
    | '\x7b' :: s =>
      (braced? f (s.length + 1) (f.skip s)).bind fun (name, rest) =>
        (CharSet.property? name).bind fun (set, outside) =>
          (classOf? f (negated != outside) set).map (·, rest)
    | c :: s =>
      (CharSet.category? (String.ofList (CharSet.normalizeName [c]))).bind fun set =>
        (classOf? f negated set).map (·, f.skip s)

/-- Whether a character can be part of the name of a condition. -/
def isLookChar (c : Char) : Bool := c.isAlpha || c == '-'

/-- Read the name of a condition on words, after `\b` and an opening curly bracket.  What does not
look like a name is left for a number of rounds. -/
def namedLook? (f : Flags) (s : Text) : Option (Option Look × Text) :=
  match f.skip s with
  | [] => none
  | c :: s' =>
    if !isLookChar c then some (none, '\x7b' :: s)
    else
      (braced? f (s'.length + 2) (c :: s')).bind fun (name, rest) =>
        match String.ofList name with
        | "start" => some (some (.wordStart f.word), rest)
        | "end" => some (some (.wordEnd f.word), rest)
        | "start-half" => some (some (.wordStartHalf f.word), rest)
        | "end-half" => some (some (.wordEndHalf f.word), rest)
        | _ => none

/-- The characters that have a meaning of their own in a pattern. -/
def metaChars : Text := "\\.+*?()|[]\x7b\x7d^$#&-~".toList

/-- Whether a backslash in front of a character makes it stand for itself. -/
def isEscapable (c : Char) : Bool :=
  metaChars.contains c || (c.toNat < 0x80 && !c.isAlphanum && c != '<' && c != '>')

/-- Read what follows a backslash. -/
def read? (f : Flags) : Text → Option (Atom × Text)
  | [] => none
  | c :: s =>
    match c with
    | 'x' => (codePoint? f 2 s).map fun (x, rest) => (.literal x, rest)
    | 'u' => (codePoint? f 4 s).map fun (x, rest) => (.literal x, rest)
    | 'U' => (codePoint? f 8 s).map fun (x, rest) => (.literal x, rest)
    | 'p' => (property? f false s).map fun (set, rest) => (.charClass set, rest)
    | 'P' => (property? f true s).map fun (set, rest) => (.charClass set, rest)
    | 'd' => some (.charClass f.digit, s)
    | 's' => some (.charClass f.blank, s)
    | 'w' => some (.charClass f.word, s)
    | 'D' => (f.compl? f.digit).map fun set => (.charClass set, s)
    | 'S' => (f.compl? f.blank).map fun set => (.charClass set, s)
    | 'W' => (f.compl? f.word).map fun set => (.charClass set, s)
    | 'a' => some (.literal '\x07', s)
    | 'f' => some (.literal '\x0c', s)
    | 't' => some (.literal '\t', s)
    | 'n' => some (.literal '\n', s)
    | 'r' => some (.literal '\r', s)
    | 'v' => some (.literal '\x0b', s)
    | 'A' => some (.look .textStart, s)
    | 'z' => some (.look .textEnd, s)
    | 'b' =>
      match s with
      | '\x7b' :: t =>
        (namedLook? f t).map fun (l, rest) => (.look (l.getD (.wordBoundary f.word)), rest)
      | _ => some (.look (.wordBoundary f.word), s)
    | 'B' => some (.look (.notWordBoundary f.word), s)
    | '<' => some (.look (.wordStart f.word), s)
    | '>' => some (.look (.wordEnd f.word), s)
    | _ => if isEscapable c then some (.literal c, s) else none

end Escape

end Pattern

end Backtrack
