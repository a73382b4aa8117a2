import Backtrack.Itemized
import Backtrack.Pattern.Basic
import Backtrack.Shell.Line
import Backtrack.Value

/-!
# Grammars as data

A grammar that is put together while a program runs is a value of the type `Grammar`: one
constructor for each way of making parsers from others, and names for grammars that are defined
elsewhere.  `Grammar.denote` gives the parser that a grammar describes, when it is known what the
names stand for.

Names may stand for grammars that contain them.  Such a system of definitions is unrolled level by
level: at level zero a name stands for a parse that never ends, and at each further level for its
definition with the names in it one level down.  From a given place only so many levels can be
used, since along a chain of names each inside the definition of the one before, either something
is read or a name comes up twice at the same place; in the latter case the parse would never end.
`Grammar.parser` unrolls that many.
-/

set_option autoImplicit false

namespace Backtrack

/-- A class of characters. -/
inductive CharClass where
  /-- The decimal digits of ASCII. -/
  | digit
  /-- The letters of ASCII. -/
  | alpha
  /-- The blank characters of Unicode. -/
  | blank
  /-- The characters that are not in ASCII. -/
  | nonAscii
  /-- Every character. -/
  | any
  /-- No character. -/
  | never
  /-- The characters listed. -/
  | oneOf (s : Text)
  /-- The characters not listed. -/
  | noneOf (s : Text)
deriving DecidableEq, Repr

/-- Whether a character belongs to a class. -/
def CharClass.has : CharClass → Char → Bool
  | digit, c => Numeral.isDigit c
  | alpha, c => c.isAlpha
  | blank, c => Text.isBlank c
  | nonAscii, c => decide (0x80 ≤ c.toNat)
  | any, _ => true
  | never, _ => false
  | oneOf s, c => s.contains c
  | noneOf s, c => !s.contains c

/-- A function by which a grammar changes its errors. -/
inductive ErrorFunction where
  /-- The name of the kind of error as a message. -/
  | kind
  /-- Always a mismatch. -/
  | mismatch
  /-- The text of the error as a message, with a label in front. -/
  | labelled (label : String)
deriving DecidableEq, Repr

/-- Change an error. -/
def ErrorFunction.apply : ErrorFunction → ParseError → ParseError
  | kind, e => .custom e.kind.tag
  | mismatch, _ => .mismatch
  | labelled label, e => .custom (label ++ e.message)

/-- The grammars that come with the library. -/
inductive Standard where
  | posint
  | integer
  | unsignedDecimal
  | decimal
  | expr
  | calculator
  | list
  | item
  | word
  | quotedWord
  | commandPath
  | arguments
  | command
deriving DecidableEq, Repr

/-- The parser of a grammar that comes with the library. -/
def Standard.parser : Standard → Parser Value
  | posint => Parser.map (fun n => .int n) .posint
  | integer => Parser.map .int .integer
  | unsignedDecimal => Parser.map .float .unsignedDecimal
  | decimal => Parser.map .float .decimal
  | expr => Parser.map .ofFloatTree Arithmetic.expr
  | calculator => Parser.map .float Arithmetic.calculator
  | list => Parser.map .ofStringTree Itemized.list
  | item => Parser.map .str Itemized.item
  | word => Parser.map .str Shell.word
  | quotedWord => Parser.map .str Shell.quotedWord
  | commandPath => Parser.map (fun names => .list (names.map .str)) Shell.commandPath
  | arguments => Parser.map (fun args => .list (args.map .str)) Shell.arguments
  | command => Parser.map .str (Shell.command Shell.standard)

/-- A description of a parser. -/
inductive Grammar where
  /-- One character of a class. -/
  | satisfy (f : CharClass)
  /-- A given string. -/
  | text (s : String)
  /-- What a pattern matches. -/
  | pattern (p : Pattern)
  /-- Exactly `n` characters. -/
  | take (n : Nat)
  /-- A grammar that comes with the library. -/
  | standard (s : Standard)
  /-- A grammar that is defined elsewhere. -/
  | ref (name : String)
  /-- A value, without reading anything. -/
  | pure (v : Value)
  /-- An error, without reading anything. -/
  | fail (e : ParseError)
  /-- The end of the input. -/
  | endOfInput
  /-- Change the value. -/
  | map (f : Value.Function) (g : Grammar)
  /-- Select among the values. -/
  | filterMap (f : Value.Selection) (g : Grammar)
  /-- Change the error. -/
  | mapError (f : ErrorFunction) (g : Grammar)
  /-- Allow a sign in front. -/
  | signed (g : Grammar)
  /-- Read as many characters as the value says. -/
  | repeatAny (g : Grammar)
  /-- Read the text of the value once more. -/
  | same (g : Grammar)
  /-- Go on with the grammar listed under the text of the value; if there is none, fail with a
  message in front of that text. -/
  | switch (g : Grammar) (cases : List (String × Grammar)) (message : String)
  /-- On an error, try another grammar from the same place. -/
  | recover (g h : Grammar)
  /-- On an error, try the grammar listed under the name of its kind; if there is none, fail with a
  message that says so. -/
  | recoverKinds (g : Grammar) (cases : List (String × Grammar))
  /-- One after the other, both values kept. -/
  | pair (g h : Grammar)
  /-- One after the other, the first value kept. -/
  | left (g h : Grammar)
  /-- One after the other, the second value kept. -/
  | right (g h : Grammar)
  /-- One after the other, all values kept. -/
  | sequence (gs : List Grammar)
  /-- Between two others. -/
  | delimitedBy (opening g closing : Grammar)
  /-- One or the other. -/
  | either (g h : Grammar)
  /-- The first that succeeds. -/
  | firstOf (gs : List Grammar)
  /-- Once or not at all. -/
  | optional (g : Grammar)
  /-- As often as possible. -/
  | many (g : Grammar)
  /-- As often as possible, and at least once. -/
  | many1 (g : Grammar)
  /-- Any number of items with separators. -/
  | separatedBy (g separator : Grammar)
  /-- At least one item with separators. -/
  | separatedBy1 (g separator : Grammar)
  /-- Only where another grammar follows. -/
  | followedBy (g look : Grammar)
  /-- Only where another grammar does not follow. -/
  | notFollowedBy (g look : Grammar)
  /-- The text in front of the first place where another grammar succeeds. -/
  | upTo (terminator : Grammar)
  /-- With the range of text read. -/
  | ranged (g : Grammar)
  /-- One level of operators. -/
  | operators (o : Operators) (g : Grammar)
  /-- An operator symbol. -/
  | operatorSymbol (symbols : List String) (guardChars : Text)

namespace Grammar

/-! ## Short forms -/

/-- Skip blanks on both sides. -/
def spaced (g : Grammar) : Grammar :=
  delimitedBy (many (satisfy (.oneOf Parser.whiteChars))) g
    (many (satisfy (.oneOf Parser.whiteChars)))

/-- Between two characters. -/
def enclosed (opening closing : Char) (g : Grammar) : Grammar :=
  delimitedBy (satisfy (.oneOf [opening])) g (satisfy (.oneOf [closing]))

/-- A run of decimal digits. -/
def digits : Grammar := map .join (many1 (satisfy (.oneOf Numeral.digitChars)))

/-- Only if nothing is left. -/
def ended (g : Grammar) : Grammar := left g endOfInput

/-! ## What a grammar describes -/

/-- What to do with a value: read as many characters as it says. -/
def repeatValue : Value → Parser Value
  | .int n => Parser.map .str (Parser.joined (Parser.exactly n.toNat Parser.anyChar))
  | _ => Parser.mismatch

/-- What to do with a value: read its text once more. -/
def sameValue : Value → Parser Value
  | .char c => Parser.map .char (Parser.char c)
  | v => Parser.map .str (Parser.text v.text)

/-- What to do with a value: go on with the parser listed under its text. -/
def switchValue (cases : List (String × Parser Value)) (message : String) (v : Value) :
    Parser Value :=
  (cases.lookup v.text).getD (Parser.fail (.custom (message ++ v.text)))

/-- What to do with an error: try the parser listed under its kind. -/
def recoverError (cases : List (String × Parser Value)) (e : ParseError) : Parser Value :=
  (cases.lookup e.kind.tag).getD (Parser.fail (.custom (e.message ++ " then unhandled")))

mutual

/-- The parser that a grammar describes, when `env` gives the parsers that names stand for. -/
def denote (env : String → Parser Value) : Grammar → Parser Value
  | satisfy f => Parser.map .char (Parser.satisfy f.has)
  | text s => Parser.map .str (Parser.text s)
  | pattern p => Parser.map .str p.parser
  | take n => Parser.map .str (Parser.joined (Parser.exactly n Parser.anyChar))
  | standard s => s.parser
  | ref name => env name
  | pure v => Parser.pure v
  | fail e => Parser.fail e
  | endOfInput => Parser.map (fun _ => .unit) Parser.endOfInput
  | map f g => Parser.map f.apply (g.denote env)
  | filterMap f g => Parser.filterMap f.select? (g.denote env)
  | mapError f g => Parser.mapError f.apply (g.denote env)
  | signed g => Parser.signed Value.negate (g.denote env)
  | repeatAny g => Parser.bind (g.denote env) repeatValue
  | same g => Parser.bind (g.denote env) sameValue
  | switch g cases message =>
    Parser.bind (g.denote env) (switchValue (denoteCases env cases) message)
  | recover g h => Parser.recover (g.denote env) fun _ => h.denote env
  | recoverKinds g cases => Parser.recover (g.denote env) (recoverError (denoteCases env cases))
  | pair g h => Parser.map (fun (a, b) => .tuple [a, b]) (Parser.pair (g.denote env) (h.denote env))
  | left g h => Parser.left (g.denote env) (h.denote env)
  | right g h => Parser.right (g.denote env) (h.denote env)
  | sequence gs => Parser.map .list (Parser.sequence (denoteAll env gs))
  | delimitedBy opening g closing =>
    Parser.delimitedBy (opening.denote env) (g.denote env) (closing.denote env)
  | either g h => Parser.either (g.denote env) (h.denote env)
  | firstOf gs => Parser.firstOf (denoteAll env gs)
  | optional g => Parser.map .ofOption (Parser.optional (g.denote env))
  | many g => Parser.map .list (Parser.many (g.denote env))
  | many1 g => Parser.map .list (Parser.many1 (g.denote env))
  | separatedBy g separator =>
    Parser.map .list (Parser.separatedBy (g.denote env) (separator.denote env))
  | separatedBy1 g separator =>
    Parser.map .list (Parser.separatedBy1 (g.denote env) (separator.denote env))
  | followedBy g look => Parser.followedBy (g.denote env) (look.denote env)
  | notFollowedBy g look => Parser.notFollowedBy (g.denote env) (look.denote env)
  | upTo terminator =>
    Parser.map (fun (s, v) => .tuple [.str s, v]) (Parser.upTo (terminator.denote env))
  | ranged g => Parser.map (fun r => .ranged r.value r.range) (Parser.ranged (g.denote env))
  | operators o g => Parser.map .tree (o.parser (g.denote env))
  | operatorSymbol symbols guardChars => Parser.map .str (Parser.operatorSymbol symbols guardChars)

/-- The parsers that several grammars describe. -/
def denoteAll (env : String → Parser Value) : List Grammar → List (Parser Value)
  | [] => []
  | g :: gs => g.denote env :: denoteAll env gs

/-- The parsers that several grammars listed under keys describe. -/
def denoteCases (env : String → Parser Value) :
    List (String × Grammar) → List (String × Parser Value)
  | [] => []
  | (key, g) :: cases => (key, g.denote env) :: denoteCases env cases

end

end Grammar

/-- Definitions of the names that grammars refer to. -/
abbrev Definitions : Type := List (String × Grammar)

/-- What the names stand for when the definitions are unrolled to a level. -/
def Definitions.level (defs : Definitions) : Nat → String → Parser Value
  | 0, _ => fun _ => .diverge
  | n + 1, name =>
    match defs.lookup name with
    | some g => g.denote (Definitions.level defs n)
    | none => Parser.mismatch

/-- The parser that a grammar describes together with definitions. -/
def Grammar.parser (defs : Definitions) (g : Grammar) : Parser Value := fun c =>
  g.denote (Definitions.level defs ((c.rest.length + 1) * defs.length + 1)) c

end Backtrack
