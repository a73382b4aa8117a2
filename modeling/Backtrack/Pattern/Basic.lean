import Backtrack.Charset.Extender
import Backtrack.Charset.Unprintable
import Backtrack.Parser.Basic
import Backtrack.Pattern.Library
import Backtrack.Pattern.Reader

/-!
# Patterns as parsers

A parser that reads what a regular expression matches at the cursor.  To the parser an expression is
a function that searches a text, whatever library it comes from; a match that begins later than at
the cursor counts for nothing.

Lest the search goes on behind the cursor, the expression is anchored.  That is done with its
source: an anchor is written in front of it and brackets around it, and the library makes a new
expression from the whole.  What the source says about brackets is therefore taken at its word.
-/

set_option autoImplicit false

namespace Backtrack

/-- A regular expression as a parser uses it. -/
structure Pattern where
  /-- The source of the expression. -/
  source : String
  /-- Search a text for a match. -/
  find? : (s : Text) → Option (Match s)

namespace Pattern

/-- Read what the pattern matches at the cursor. -/
def parser (p : Pattern) : Parser String := fun c =>
  match p.find? c.rest with
  | some m =>
    if m.before.isEmpty then .ok (String.ofList m.matched) (c.moveTo m.matched m.after)
    else .error .mismatch
  | none => .error .mismatch

/-- **A pattern is read by the offsets of the match**: it has to start at the cursor, which then is
advanced to where the match ends. -/
theorem parser_eq_advance (p : Pattern) (c : Cursor) :
    p.parser c =
      match p.find? c.rest with
      | some m =>
        if Text.byteSize m.before = 0 then
          .ok (String.ofList m.matched) (c.advance (Text.byteSize (m.before ++ m.matched)))
        else .error .mismatch
      | none => .error .mismatch := by
  rw [parser]
  cases p.find? c.rest with
  | none => rfl
  | some m =>
    by_cases hbefore : m.before = []
    · have hrest : c.rest = m.before ++ m.matched ++ m.after := by
        rw [List.append_assoc]
        exact m.eq_append
      simp only
      rw [Cursor.advance_byteSize hrest, hbefore]
      rfl
    · simp [hbefore]

/-! ## Anchoring -/

/-- The source of an expression with an anchor in front. -/
def anchored (source : String) : String := "^(?:" ++ source ++ ")"

/-- The pattern that a library makes from a source, with an anchor in front of it. -/
def of? (L : RegexLibrary) (source : String) : Option Pattern :=
  (L.compile? (anchored source)).map fun r => ⟨L.source r, L.find? r⟩

/-- The pattern that a library makes from the source of an expression, with an anchor in front of
it. -/
def ofExpr? (L : RegexLibrary) (r : L.Expr) : Option Pattern := of? L (L.source r)

/-! ## The library at hand -/

/-- A regular expression with the source it was read from. -/
structure Compiled where
  /-- The source. -/
  source : String
  /-- What was read from it. -/
  regex : Regex

/-- Search a text for a match. -/
def Compiled.find? (r : Compiled) (s : Text) : Option (Match s) :=
  (r.regex.search? none s).map fun (i, n) =>
    ⟨s.take i, (s.drop i).take n, (s.drop i).drop n, by simp only [List.take_append_drop]⟩

/-- A library with which patterns can be run. -/
def library : RegexLibrary where
  Expr := Compiled
  compile? source := (read? source.toList).map fun regex => ⟨source, regex⟩
  source := Compiled.source
  find? := Compiled.find?

/-- Anchor a pattern, if its text is one with the anchor in front. -/
def ofSource? (source : String) : Option Pattern := of? library source

/-- Anchor a pattern whose text also is one without the anchor. -/
def ofPattern? (source : String) : Option Pattern :=
  (library.compile? source).bind fun r => ofExpr? library r

/-! ## The text of a pattern in quotation marks -/

/-- A code point in hexadecimal digits. -/
def hex (n : Nat) : Text := Nat.toDigits 16 n

/-- A character as it is written between quotation marks: with a backslash in front if it would be
misread there, and by its code point if it would not be seen. -/
def escapeChar (c : Char) : Text :=
  match c with
  | '\x00' => ['\\', '0']
  | '\t' => ['\\', 't']
  | '\r' => ['\\', 'r']
  | '\n' => ['\\', 'n']
  | '\\' => ['\\', '\\']
  | '"' => ['\\', '"']
  | _ =>
    if Charset.extender.has c.toNat || Charset.unprintable.has c.toNat then
      ['\\', 'u', '\x7b'] ++ hex c.toNat ++ ['\x7d']
    else [c]

/-- A string between quotation marks. -/
def quote (s : String) : String :=
  String.ofList (['"'] ++ s.toList.flatMap escapeChar ++ ['"'])

/-- The description of a parser that changes the errors of a pattern. -/
def describeMapped (p : Pattern) : String :=
  "MapErr \x7b parser: PatternParser \x7b regex: Regex(" ++ quote p.source ++
    ") \x7d, mapper: \"<function>\" \x7d"

end Pattern

end Backtrack
