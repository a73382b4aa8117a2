import Backtrack.Text

/-!
# Libraries of regular expressions

Regular expressions come from a library, and of the library no more is known here than what it can
be asked to do: to make an expression from its source, to give the source back, and to search a text
for a match.  What an expression means is the library's affair.
-/

set_option autoImplicit false

namespace Backtrack

/-- A match in a text, which it cuts into three parts. -/
structure Match (s : Text) where
  /-- The text in front of the match. -/
  before : Text
  /-- The text that is matched. -/
  matched : Text
  /-- The text behind the match. -/
  after : Text
  /-- Together they are the whole text. -/
  eq_append : s = before ++ (matched ++ after)

/-- A library of regular expressions. -/
structure RegexLibrary where
  /-- The expressions. -/
  Expr : Type
  /-- Make an expression from its source, unless the source is none. -/
  compile? : String → Option Expr
  /-- The source that an expression was made from. -/
  source : Expr → String
  /-- Search a text for a match of an expression. -/
  find? : Expr → (s : Text) → Option (Match s)

end Backtrack
