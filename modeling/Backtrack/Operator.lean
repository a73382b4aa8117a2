import Backtrack.Parser.Choice
import Backtrack.Parser.Enclosed
import Backtrack.Parser.Lookahead
import Backtrack.Tree

/-!
# Binary operators

One level of precedence is a set of operator symbols that bind equally tightly, read between
operands.  Levels are nested: the operand of a looser level is the whole of the next tighter one.

A symbol is read with the blanks around it.  Two rules keep one symbol from being taken for a part
of another: longer symbols are tried first, and a symbol does not count if a character of the
*guard* stands directly behind it, so that `+` is not read out of `+=`.  The symbols of a level are
put into order once, when the level is made, and the level carries the proof that they are
(`Operators.descending`); whoever replaces the guard can rely on that.

An operator that no operand follows is not part of the expression and is not read.
-/

set_option autoImplicit false

namespace Backtrack

/-- How a run of operators of one level is grouped. -/
inductive Assoc where
  /-- `a - b - c` is `(a - b) - c`. -/
  | left
  /-- `a ^ b ^ c` is `a ^ (b ^ c)`. -/
  | right
deriving DecidableEq, Repr

/-- The number of bytes of a symbol. -/
def symbolSize (s : String) : Nat := Text.byteSize s.toList

/-- One level of binary operators. -/
structure Operators where
  /-- The symbols of the level, in the order in which they are tried. -/
  symbols : List String
  /-- How the operators of the level are grouped. -/
  assoc : Assoc
  /-- The characters that may not stand directly behind a symbol. -/
  guardChars : Text
  /-- Symbols with more bytes are tried first. -/
  descending : symbols.Pairwise fun a b => symbolSize b ≤ symbolSize a
deriving DecidableEq, Repr

namespace Operators

/-- The characters that usually continue an operator symbol. -/
def defaultGuard : Text := "!#$%&*+-./:;<=>?@^|~".toList

/-- Symbols in the order in which they are tried: those with more bytes first, and otherwise as
they are given. -/
def tryOrder (symbols : List String) : List String :=
  symbols.mergeSort fun a b => decide (symbolSize b ≤ symbolSize a)

theorem mem_tryOrder {s : String} {symbols : List String} : s ∈ tryOrder symbols ↔ s ∈ symbols :=
  List.mem_mergeSort

theorem pairwise_tryOrder (symbols : List String) :
    (tryOrder symbols).Pairwise fun a b => symbolSize b ≤ symbolSize a := by
  refine (List.pairwise_mergeSort ?_ ?_ symbols).imp fun h => of_decide_eq_true h
  · intro a b c hab hbc
    exact decide_eq_true (Nat.le_trans (of_decide_eq_true hbc) (of_decide_eq_true hab))
  · intro a b
    simp only [Bool.or_eq_true, decide_eq_true_eq]
    exact Nat.le_total _ _

/-- Symbols that stand in the order of decreasing sizes are tried in the order in which they
stand. -/
theorem tryOrder_of_descending {symbols : List String}
    (h : symbols.Pairwise fun a b => symbolSize b ≤ symbolSize a) : tryOrder symbols = symbols :=
  List.mergeSort_of_pairwise (h.imp fun hle => decide_eq_true hle)

/-- A level of operators with the usual guard. -/
def level (symbols : List String) (assoc : Assoc) : Operators :=
  ⟨tryOrder symbols, assoc, defaultGuard, pairwise_tryOrder symbols⟩

/-- The same operators with another guard; they are in order already. -/
def withGuard (o : Operators) (chars : Text) : Operators := { o with guardChars := chars }

end Operators

namespace Parser

variable {α : Type}

/-- Read one of the symbols with the blanks around it, the first one that stands there and that no
guard character follows. -/
def firstSymbol (symbols : List String) (guardChars : Text) : Parser String :=
  spaced (firstOf (symbols.map fun s => notFollowedBy (text s) (oneOf guardChars)))

/-- Read one of the symbols with the blanks around it, longer ones first and none that a guard
character follows. -/
def operatorSymbol (symbols : List String) (guardChars : Text) : Parser String :=
  firstSymbol (Operators.tryOrder symbols) guardChars

/-- Read as many pairs of an operator and an operand as there are, and hang each one over the tree
read so far. -/
def leftLoop (symbol : Parser String) (operand : Parser α) (tree : Tree α) (c : Cursor) :
    Outcome (Tree α) :=
  match symbol c with
  | .ok op c' =>
    match operand c' with
    | .ok v c'' =>
      if c''.rest.length < c.rest.length then
        leftLoop symbol operand (.node op tree (.leaf v)) c''
      else .diverge
    | .error _ => .ok tree c
    | .diverge => .diverge
  | .error _ => .ok tree c
  | .diverge => .diverge
termination_by c.rest.length

/-- Read operands with operators between them, grouped to the left. -/
def leftOperators (symbol : Parser String) (operand : Parser α) : Parser (Tree α) := fun c =>
  match operand c with
  | .ok v c' => leftLoop symbol operand (.leaf v) c'
  | .error e => .error e
  | .diverge => .diverge

/-- Read operands with operators between them, grouped to the right. -/
def rightOperators (symbol : Parser String) (operand : Parser α) (c : Cursor) : Outcome (Tree α) :=
  match operand c with
  | .ok v c' =>
    match symbol c' with
    | .ok op c'' =>
      if c''.rest.length < c.rest.length then
        match rightOperators symbol operand c'' with
        | .ok t c''' => .ok (.node op (.leaf v) t) c'''
        | .error _ => .ok (.leaf v) c'
        | .diverge => .diverge
      else .diverge
    | .error _ => .ok (.leaf v) c'
    | .diverge => .diverge
  | .error e => .error e
  | .diverge => .diverge
termination_by c.rest.length

end Parser

namespace Operators

variable {α : Type}

/-- Read one of the symbols of a level. -/
def symbol (o : Operators) : Parser String := Parser.firstSymbol o.symbols o.guardChars

/-- Read an expression of one level over operands read by `operand`. -/
def parser (o : Operators) (operand : Parser α) : Parser (Tree α) :=
  match o.assoc with
  | .left => Parser.leftOperators o.symbol operand
  | .right => Parser.rightOperators o.symbol operand

end Operators

end Backtrack
