import Backtrack.Parser.Choice
import Backtrack.Parser.Enclosed
import Backtrack.Shell.Command

/-!
# Command lines

A command line is the path of a command, with points between the names, and the arguments to run
it with.  An argument is a word, or any text without quotation marks between two of them.

The path is looked up before any argument is read, so a line with an unknown command fails with
that, whatever follows it.
-/

set_option autoImplicit false

namespace Backtrack

namespace Shell

open Backtrack.Parser

/-- Read a run of characters that are not blank. -/
def word : Parser String := joined (many1 (satisfy fun x => !Text.isBlank x))

/-- Read text between quotation marks. -/
def quotedWord : Parser String := delimitedBy (char '"') (joined (many (noneOf ['"']))) (char '"')

/-- Read one name of a path. -/
def segment : Parser String := joined (many1 (satisfy fun x => x != '.' && !Text.isBlank x))

/-- Read a path. -/
def commandPath : Parser (List String) := separatedBy1 segment (char '.')

/-- Read one argument. -/
def argument : Parser String := firstOf [quotedWord, word]

/-- Read arguments with blanks in front of each. -/
def arguments : Parser (List String) :=
  withDefault [] (right (many1 white) (separatedBy1 argument (many1 white)))

/-- Read the arguments of the command at `path` and run it. -/
def runAt (root : Command) (path : List String) : Parser String :=
  match root.find? path with
  | some command => Parser.map (execute root command) arguments
  | none => fail (.custom (notFound (".".intercalate path)))

/-- Read a command line and run it. -/
def command (root : Command) : Parser String := spaced (commandPath >>= runAt root)

end Shell

end Backtrack
