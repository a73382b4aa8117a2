/-!
# Options of the console

The arguments of the command line are read from left to right.  Each option may be given once; a
value follows as the next argument or after an equals sign, and an argument that begins with a
hyphen is not a value unless it is the hyphen alone.  The first argument that breaks a rule makes
the whole command line invalid, unless the version or the help text was asked for before it.
-/

set_option autoImplicit false

namespace Backtrack

namespace Console

/-- What the console reads. -/
inductive Choice where
  /-- Arithmetic expressions, to be shown with brackets. -/
  | expression
  /-- Arithmetic expressions, to be worked out. -/
  | calculator
  /-- Itemized text. -/
  | list
  /-- Command lines. -/
  | shell
deriving DecidableEq, Repr

/-- When errors are shown in color. -/
inductive Coloring where
  /-- If the terminal shows colors. -/
  | auto
  | always
  | never
deriving DecidableEq, Repr

/-- Whether errors are shown in color, if `colors` says whether the terminal shows any. -/
def Coloring.applies (colors : Bool) : Coloring → Bool
  | auto => colors
  | always => true
  | never => false

/-- How the console works. -/
structure Options where
  /-- What each line is read as. -/
  choice : Choice
  /-- Whether a line may go on after what was read. -/
  allowTrailing : Bool
  /-- The name shown in front of each line. -/
  prompt : String
  /-- When errors are shown in color. -/
  coloring : Coloring
deriving DecidableEq, Repr

/-- What a command line asks for. -/
inductive Request where
  /-- To run the console. -/
  | run (o : Options)
  /-- To print the version. -/
  | version
  /-- To print the help text. -/
  | help
  /-- Nothing that makes sense. -/
  | invalid
deriving DecidableEq, Repr

/-- The options given so far. -/
structure Given where
  choice : Option Choice
  allowTrailing : Bool
  prompt : Option String
  coloring : Option Coloring
deriving DecidableEq, Repr

namespace Given

/-- No options. -/
def nothing : Given := ⟨none, false, none, none⟩

/-- The options, with what holds if one was not given. -/
def options (g : Given) : Options :=
  ⟨g.choice.getD .calculator, g.allowTrailing, g.prompt.getD "parsecond", g.coloring.getD .auto⟩

/-- Give a value for the option with a name. -/
def set? (g : Given) (name value : String) : Option Given :=
  match name with
  | "--grammar" =>
    let choice : Option Choice :=
      match value with
      | "expr" => some .expression
      | "calc" => some .calculator
      | "list" => some .list
      | "shell" => some .shell
      | _ => none
    if g.choice.isSome then none else choice.map fun c => { g with choice := some c }
  | "--color" =>
    let coloring : Option Coloring :=
      match value with
      | "auto" => some .auto
      | "always" => some .always
      | "never" => some .never
      | _ => none
    if g.coloring.isSome then none else coloring.map fun c => { g with coloring := some c }
  | "--prompt" => if g.prompt.isSome then none else some { g with prompt := some value }
  | _ => none

end Given

/-- Whether an argument can be the value of an option in front of it. -/
def isValue (arg : String) : Bool := arg == "-" || !"-".isPrefixOf arg

/-- The name and the value of an argument that has an equals sign. -/
def splitArgument? (arg : String) : Option (String × String) :=
  let s := arg.toList
  match s.dropWhile (· != '=') with
  | [] => none
  | _ :: value => some (String.ofList (s.takeWhile (· != '=')), String.ofList value)

/-- What short options ask for: the first letter decides. -/
def shortRequest (arg : String) : Request :=
  match arg.toList with
  | '-' :: 'V' :: _ => .version
  | '-' :: 'h' :: _ => .help
  | _ => .invalid

/-- Read the arguments of a command line. -/
def readArguments (g : Given) : List String → Request
  | [] => .run g.options
  | arg :: rest =>
    if arg == "--" then (if rest.isEmpty then .run g.options else .invalid)
    else if arg == "--version" then .version
    else if arg == "--help" then .help
    else if arg == "--allow-trailing" then
      if g.allowTrailing then .invalid else readArguments { g with allowTrailing := true } rest
    else if "--".isPrefixOf arg then
      match splitArgument? arg with
      | some (name, value) =>
        match g.set? name value with
        | some g => readArguments g rest
        | none => .invalid
      | none =>
        match rest with
        | [] => .invalid
        | value :: rest =>
          if isValue value then
            match g.set? arg value with
            | some g => readArguments g rest
            | none => .invalid
          else .invalid
    else shortRequest arg

/-- What the arguments of a command line ask for. -/
def request (args : List String) : Request := readArguments .nothing args

end Console

end Backtrack
