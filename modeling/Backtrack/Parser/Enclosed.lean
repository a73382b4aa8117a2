import Backtrack.Parser.Char
import Backtrack.Parser.Repetition
import Backtrack.Parser.Sequence

/-!
# Blanks and brackets

What stands around a token.  Between tokens parsers skip space, tab, carriage return and line
feed, and no other blank character.
-/

set_option autoImplicit false

namespace Backtrack

namespace Parser

variable {α : Type}

/-- The characters that are skipped between tokens. -/
def whiteChars : Text := [' ', '\t', '\r', '\n']

/-- Read one of the characters that are skipped between tokens. -/
def white : Parser Char := oneOf whiteChars

/-- Run `p` and skip the blanks on both sides. -/
def spaced (p : Parser α) : Parser α := delimitedBy (many white) p (many white)

/-- Run `p` between round brackets. -/
def parens (p : Parser α) : Parser α := delimitedBy (char '(') p (char ')')

/-- Run `p` between square brackets. -/
def brackets (p : Parser α) : Parser α := delimitedBy (char '[') p (char ']')

/-- Run `p` between curly brackets. -/
def braces (p : Parser α) : Parser α := delimitedBy (char '\x7b') p (char '\x7d')

/-- Run `p` between angle brackets. -/
def angles (p : Parser α) : Parser α := delimitedBy (char '<') p (char '>')

end Parser

end Backtrack
