import Backtrack.Arithmetic
import Backtrack.Range

/-!
# Values

Grammars that are put together while a program runs yield values whose type is not known
beforehand.  `Value` is the type of all of them, with a text for each (`Value.text`).
-/

set_option autoImplicit false

namespace Backtrack

/-- What a grammar can yield. -/
inductive Value where
  /-- Nothing of interest. -/
  | unit
  /-- A character. -/
  | char (c : Char)
  /-- A string. -/
  | str (s : String)
  /-- A whole number. -/
  | int (i : Int)
  /-- A decimal number. -/
  | float (x : Float)
  /-- Any number of values. -/
  | list (vs : List Value)
  /-- A fixed number of values. -/
  | tuple (vs : List Value)
  /-- A value that is missing. -/
  | absent
  /-- A value that might have been missing. -/
  | present (v : Value)
  /-- A value with the range of text it was read from. -/
  | ranged (v : Value) (r : Range)
  /-- A tree of operators. -/
  | tree (t : Tree Value)

namespace Value

/-- The text of a whole number. -/
def intText (i : Int) : String := String.ofList (Numeral.ofInt i)

/-- The text of a decimal number. -/
def floatText (x : Float) : String := String.ofList (Numeral.ofFloat x)

mutual

/-- The text of a value. -/
def text : Value → String
  | unit => "()"
  | char c => String.ofList [c]
  | str s => s
  | int i => intText i
  | float x => floatText x
  | list vs => "[" ++ ", ".intercalate (texts vs) ++ "]"
  | tuple vs => "(" ++ ", ".intercalate (texts vs) ++ ")"
  | absent => "None"
  | present v => "Some(" ++ v.text ++ ")"
  | ranged v r => v.text ++ "@" ++ intText r.start ++ ".." ++ intText r.stop
  | tree t => treeText t

/-- The texts of several values. -/
def texts : List Value → List String
  | [] => []
  | v :: vs => v.text :: texts vs

/-- The text of a tree of values, with round brackets around every operation. -/
def treeText : Tree Value → String
  | .leaf v => v.text
  | .node op l r => "(" ++ treeText l ++ " " ++ op ++ " " ++ treeText r ++ ")"

end

/-- The number of bytes of a string or of items of a list or tuple; other values have no length. -/
def length : Value → Nat
  | str s => Text.byteSize s.toList
  | list vs => vs.length
  | tuple vs => vs.length
  | _ => 0

/-- The opposite of a number; other values are left as they are. -/
def negate : Value → Value
  | int i => int (-i)
  | float x => float (-x)
  | v => v

/-- The texts of the items of a list, a tuple or an optional value, joined; the text of any other
value. -/
def join : Value → String
  | list vs => String.join (vs.map text)
  | tuple vs => String.join (vs.map text)
  | absent => ""
  | present v => v.text
  | v => v.text

/-- The tree that a value is; a value that is none is a leaf. -/
def toTree : Value → Tree Value
  | tree t => t
  | v => .leaf v

/-- The float closest to a whole number. -/
def floatOfInt (i : Int) : Float :=
  let x := Float.ofScientific i.natAbs false 0
  if i < 0 then -x else x

/-- The number that a value is; a value that is none gives no number. -/
def toFloat : Value → Float
  | float x => x
  | int i => floatOfInt i
  | _ => 0.0 / 0.0

/-- The value of a tree of strings. -/
def ofStringTree (t : Tree String) : Value := tree (t.map str)

/-- The value of a tree of numbers. -/
def ofFloatTree (t : Tree Float) : Value := tree (t.map float)

/-- The value of an optional value. -/
def ofOption : Option Value → Value
  | none => absent
  | some v => present v

/-! ## Functions of values -/

/-- A function by which a grammar changes what it yields. -/
inductive Function where
  /-- The text of the value. -/
  | text
  /-- The length of the value. -/
  | length
  /-- The first item of a tuple. -/
  | first
  /-- The second item of a tuple. -/
  | second
  /-- Always the same value. -/
  | const (v : Value)
  /-- One tree for a tree whose operands are trees. -/
  | flatten
  /-- The number of operators in a tree. -/
  | operatorCount
  /-- The text of a tree with every operator after its operands. -/
  | polish
  /-- The number that a tree of numbers works out to. -/
  | evaluate
  /-- The texts of the items, joined. -/
  | join
  /-- The items of a list as a tuple. -/
  | asTuple

/-- Apply a function to a value. -/
def Function.apply : Function → Value → Value
  | text, v => str v.text
  | length, v => int v.length
  | first, v =>
    match v with
    | tuple (a :: _) => a
    | v => v
  | second, v =>
    match v with
    | tuple (_ :: b :: _) => b
    | v => v
  | const w, _ => w
  | flatten, v =>
    match v with
    | tree t => tree (t.map toTree).flatten
    | v => v
  | operatorCount, v =>
    match v with
    | tree t => int t.operatorCount
    | v => v
  | polish, v =>
    match v with
    | tree t => str (t.renderPolish Value.text)
    | v => v
  | evaluate, v =>
    match v with
    | tree t => float (Arithmetic.evaluate (t.map toFloat))
    | v => v
  | join, v => str v.join
  | asTuple, v =>
    match v with
    | list vs => tuple vs
    | v => v

/-- A choice that a grammar makes among the values it might yield. -/
inductive Selection where
  /-- The number below 256 that the text of the value stands for, with or without a plus sign. -/
  | byte
  /-- The value of a decimal digit. -/
  | digit
  /-- An even number. -/
  | even
  /-- The first item of a list. -/
  | head
  /-- A number below `n`. -/
  | below (n : Int)
  /-- A value at least `n` long. -/
  | longerEqual (n : Int)
  /-- A value with the text `s`. -/
  | equal (s : String)
  /-- The text of the value, if it is not empty. -/
  | nonEmptyText

/-- The number below 256 that a text stands for. -/
def byte? (s : Text) : Option Nat :=
  let digits :=
    match s with
    | '+' :: r => r
    | _ => s
  let n := Numeral.value digits
  if digits.isEmpty || !digits.all Numeral.isDigit || n ≥ 256 then none else some n

/-- Apply a selection to a value. -/
def Selection.select? : Selection → Value → Option Value
  | byte, v => (byte? v.text.toList).map fun n => int n
  | digit, v =>
    match v with
    | char c => if Numeral.isDigit c then some (int (Numeral.digitValue c)) else none
    | _ => none
  | even, v =>
    match v with
    | int i => if i % 2 = 0 then some v else none
    | _ => none
  | head, v =>
    match v with
    | list (a :: _) => some a
    | _ => none
  | below n, v =>
    match v with
    | int i => if i < n then some v else none
    | _ => none
  | longerEqual n, v => if n ≤ v.length then some v else none
  | equal s, v => if v.text = s then some v else none
  | nonEmptyText, v => if v.text.isEmpty then none else some (str v.text)

end Value

end Backtrack
