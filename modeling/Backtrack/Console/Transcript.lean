import Backtrack.Arithmetic
import Backtrack.Console.Options
import Backtrack.Itemized
import Backtrack.Shell.Line

/-!
# What the console prints

The console prints a banner, and then it reads line by line: it shows the prompt, reads a line and
answers it, until the input ends behind a last prompt.  What it answers is decided by its options,
by whether the terminal shows colors (`colors`), and by the line alone (`response`).
-/

set_option autoImplicit false

namespace Backtrack

namespace Console

/-- The parser for what the console reads, which yields the text to print. -/
def Choice.parser : Choice → Parser String
  | expression => Parser.map Arithmetic.render Arithmetic.expr
  | calculator => Parser.map (fun x => String.ofList (Numeral.ofFloat x)) Arithmetic.calculator
  | list => Parser.map Itemized.render Itemized.list
  | shell => Shell.command Shell.standard

/-- Read a line. -/
def answer (choice : Choice) (allowTrailing : Bool) (line : Text) : Outcome String :=
  if allowTrailing then choice.parser.run line else (Parser.ended choice.parser).run line

/-- The code by which a terminal goes back to plain text. -/
def plain : String := "\x1b[0m"

/-- The code by which a terminal changes to bold text. -/
def bold : String := "\x1b[1m"

/-- The code by which a terminal changes to red text. -/
def red : String := "\x1b[31m"

/-- What is printed for an error, in color or without. -/
def errorText (colored : Bool) (e : ParseError) : String :=
  let label := "Error [" ++ e.kind.tag ++ "]"
  let message := ": " ++ e.message ++ "\n"
  if colored then plain ++ bold ++ red ++ label ++ plain ++ red ++ message ++ plain
  else label ++ message

/-- What is printed for a line from which the line ending has been removed.  There is no answer to a
blank line. -/
def response (colors : Bool) (o : Options) (line : Text) : String :=
  if (Text.trim line).isEmpty then ""
  else
    match answer o.choice o.allowTrailing line with
    | .ok value _ => value ++ "\n"
    | .error e => errorText (o.coloring.applies colors) e
    | .diverge => ""

/-- Read one line, with the line feed that ends it, and give what follows it.  The last line may be
without a line feed, and at the end of the input the line is empty. -/
def readLine : Text → Text × Text
  | [] => ([], [])
  | c :: s =>
    if c = '\n' then ([c], s)
    else
      let (line, rest) := readLine s
      (c :: line, rest)

/-- Nothing is lost when a line is read. -/
theorem readLine_append (s : Text) : (readLine s).1 ++ (readLine s).2 = s := by
  fun_induction readLine s with
  | case1 => rfl
  | case2 s => rfl
  | case3 c s hc line rest hline ih =>
    rw [hline] at ih
    rw [List.cons_append, ih]

/-- Behind a line there is less to read. -/
theorem length_lt_of_readLine {s line rest : Text} {c : Char}
    (h : readLine s = (c :: line, rest)) : rest.length < s.length := by
  have happend := congrArg List.length (readLine_append s)
  simp only [h, List.length_append, List.length_cons] at happend
  omega

/-- A line without the carriage returns and line feeds at its end. -/
def stripEnding (line : Text) : Text :=
  (line.reverse.dropWhile fun c => c == '\r' || c == '\n').reverse

/-- The line printed at the beginning. -/
def banner (o : Options) : String := "Parsecond REPL - " ++ o.prompt ++ "\n"

/-- What is printed in front of each line. -/
def prompt (o : Options) : String := o.prompt ++ "> "

/-- All that is printed from a prompt on, when `input` is what is still to be read: each line is
read and answered, until there is none. -/
def dialogue (colors : Bool) (o : Options) (input : Text) : String :=
  match h : readLine input with
  | ([], _) => prompt o ++ "\n"
  | (c :: line, rest) =>
    have : rest.length < input.length := length_lt_of_readLine h
    prompt o ++ response colors o (stripEnding (c :: line)) ++ dialogue colors o rest
termination_by input.length

/-- All that is printed when `input` is typed. -/
def transcript (colors : Bool) (o : Options) (input : Text) : String :=
  banner o ++ dialogue colors o input

/-- The version of the program. -/
def versionText : String := "parsecond 0.1.0\n"

/-- The help text of the program. -/
def helpText : String :=
  "Try the parsecond example grammars.\n\nUsage: parsecond [OPTIONS]\n\nOptions:\n"
    ++ "      --grammar <GRAMMAR>  Grammar to run each line through [default: calc] "
    ++ "[possible values: expr, calc, list, shell]\n"
    ++ "      --allow-trailing     Accept input left over after the grammar matched\n"
    ++ "      --prompt <PROMPT>    Name shown in the banner and the prompt [default: parsecond]\n"
    ++ "      --color <COLOR>      When to color error output [default: auto] "
    ++ "[possible values: auto, always, never]\n"
    ++ "  -h, --help               Print help\n  -V, --version            Print version\n"

/-- What a run of the program prints and how it ends. -/
structure Result where
  /-- What is printed. -/
  output : String
  /-- The exit code. -/
  code : Nat
deriving DecidableEq, Repr

/-- Run the console with options on all that is typed. -/
def session (colors : Bool) (o : Options) (input : Text) : Result := ⟨transcript colors o input, 0⟩

/-- Run the program with arguments and all that is typed. -/
def runOn (colors : Bool) (args : List String) (input : Text) : Result :=
  match request args with
  | .run o => session colors o input
  | .version => ⟨versionText, 0⟩
  | .help => ⟨helpText, 0⟩
  | .invalid => ⟨"", 2⟩

/-- Run the program where no terminal shows colors. -/
def run (args : List String) (input : Text) : Result := runOn false args input

end Console

end Backtrack
