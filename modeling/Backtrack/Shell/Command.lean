/-!
# Command trees

A command does something and may have further commands below it, each under a name.  A command is
found by the path of names that leads to it from the root.

The commands below a command are kept in the order of their names, one for each name, so that the
help text lists them in that order however the tree was built.  Names are compared character by
character, which for text in UTF-8 is the order of its bytes.
-/

set_option autoImplicit false

namespace Backtrack

namespace Shell

/-- What a command does when it is run. -/
inductive Action where
  /-- Print a fixed name. -/
  | name (text : String)
  /-- Describe the command whose path is the first argument. -/
  | help
  /-- Print the arguments. -/
  | echo
deriving DecidableEq, Repr

/-- A command and the commands below it. -/
inductive Command where
  /-- A command with its action, what is known about it, and the commands below it by name. -/
  | mk (action : Action) (description : Option String) (children : List (String × Command))

namespace Command

/-- What the command does. -/
def action : Command → Action
  | mk a _ _ => a

/-- What is known about the command. -/
def description : Command → Option String
  | mk _ d _ => d

/-- The commands directly below, in the order of their names. -/
def children : Command → List (String × Command)
  | mk _ _ cs => cs

/-- The names of the commands directly below. -/
def childNames (c : Command) : List String := c.children.map Prod.fst

/-- A command with nothing below it and nothing known about it. -/
def new (action : Action) : Command := mk action none []

/-- The same command with a description. -/
def describe (c : Command) (text : String) : Command := mk c.action (some text) c.children

/-- Put a command under a name in its place, in front of the first name that is greater.  What
stood under the name before is replaced. -/
def insertChild (name : String) (command : Command) :
    List (String × Command) → List (String × Command)
  | [] => [(name, command)]
  | (n, c) :: cs =>
    if name < n then (name, command) :: (n, c) :: cs
    else if name = n then (name, command) :: cs
    else (n, c) :: insertChild name command cs

/-- The same command with another one below it. -/
def addChild (c : Command) (name : String) (command : Command) : Command :=
  mk c.action c.description (insertChild name command c.children)

/-- The command directly below that has the given name. -/
def child? (c : Command) (name : String) : Option Command := c.children.lookup name

/-- The command at the end of a path that starts below `c`. -/
def find? (c : Command) : List String → Option Command
  | [] => some c
  | name :: path => (c.child? name).bind fun d => d.find? path

end Command

/-- What is printed for a path that leads nowhere. -/
def notFound (path : String) : String := "Command '" ++ path ++ "' not found."

/-- The names along a path that is written with points between them. -/
def splitPath (path : String) : List String := go [] path.toList
where
  /-- Split what is left of a path, when `name` is the part of a name read so far, in reverse. -/
  go (name : List Char) : List Char → List String
    | [] => [String.ofList name.reverse]
    | c :: cs => if c = '.' then String.ofList name.reverse :: go [] cs else go (c :: name) cs

/-- What is printed about the command at a path; the empty path is that of the root. -/
def help (root : Command) (path : String) : String :=
  let target := if path.isEmpty then some root else root.find? (splitPath path)
  match target with
  | none => notFound path
  | some command =>
    let label := if path.isEmpty then "[root]" else path
    let names := command.childNames.map fun name => "\n * " ++ name
    label ++ ": " ++ command.description.getD "[no description]" ++ String.join names

/-- What a command prints when it is run with arguments. -/
def execute (root command : Command) (args : List String) : String :=
  match command.action with
  | .name text => text
  | .echo => " ".intercalate args
  | .help => help root (args.headD "")

/-- The commands of a shell that has not been set up otherwise. -/
def standard : Command :=
  (Command.new (.name "root"))
    |>.addChild "help" ((Command.new .help).describe "Get help of a command.")
    |>.addChild "echo" ((Command.new .echo).describe "Echo text.")
    |>.addChild "foo" ((Command.new (.name "foo")).addChild "bar" (Command.new (.name "bar")))

end Shell

end Backtrack
