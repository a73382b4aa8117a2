import Backtrack.Operator
import Backtrack.Parser.Number

/-!
# Arithmetic expressions

Numbers, four levels of grouping and the usual operators: `^` and `**` bind tightest and group to
the right, `*` and `/` come next, `+` and `-` are loosest, and round brackets override all of
that.  Numbers have no sign.

The grammar refers to itself inside brackets.  `level` cuts that off after a number of brackets,
and since every reference is behind an opening bracket that has been read, one level for each
opening bracket in the unread text and one more are always enough; that is how deep `expr` goes.
-/

set_option autoImplicit false

namespace Backtrack

namespace Arithmetic

/-- The characters that may not stand directly behind an arithmetic operator.  The point is not
one of them, since a number may begin with it. -/
def guardChars : Text := "!#$%&*+-/:;<=>?@^|~".toList

/-- Powers. -/
def powers : Operators := (Operators.level ["^", "**"] .right).withGuard guardChars

/-- Products and quotients. -/
def products : Operators := (Operators.level ["*", "/"] .left).withGuard guardChars

/-- Sums and differences. -/
def sums : Operators := (Operators.level ["+", "-"] .left).withGuard guardChars

/-- A number, or an expression read by `self` in round brackets. -/
def atom (self : Parser (Tree Float)) : Parser (Tree Float) :=
  .either (Parser.map .leaf .unsignedDecimal) (.parens self)

/-- Read one level of operators over expressions. -/
def operators (o : Operators) (operand : Parser (Tree Float)) : Parser (Tree Float) :=
  Parser.map Tree.flatten (o.parser operand)

/-- An expression whose bracketed parts are read by `self`. -/
def exprWith (self : Parser (Tree Float)) : Parser (Tree Float) :=
  .spaced (operators sums (operators products (operators powers (atom self))))

/-- An expression with brackets nested less than `n` deep. -/
def level : Nat → Parser (Tree Float)
  | 0 => .mismatch
  | n + 1 => exprWith (level n)

/-- Read an arithmetic expression. -/
def expr : Parser (Tree Float) := fun c => level (c.rest.count '(' + 1) c

/-- Apply an operator.  A symbol that is not an arithmetic operator gives no number. -/
def apply (op : String) (x y : Float) : Float :=
  match op with
  | "+" => x + y
  | "-" => x - y
  | "*" => x * y
  | "/" => x / y
  | "^" => x.pow y
  | "**" => x.pow y
  | _ => 0.0 / 0.0

/-- The value of an expression. -/
def evaluate (t : Tree Float) : Float := t.fold id apply

/-- Read an arithmetic expression and yield its value. -/
def calculator : Parser Float := Parser.map evaluate expr

/-- The text of an expression, with round brackets around every operation. -/
def render (t : Tree Float) : String := t.render fun x => String.ofList (Numeral.ofFloat x)

end Arithmetic

end Backtrack
