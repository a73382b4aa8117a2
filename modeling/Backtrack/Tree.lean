/-!
# Trees of binary operators

The result of reading an expression: operands at the leaves and operator symbols, as they were
written, at the nodes.  Everything that is computed from a tree is computed by `Tree.fold`, from
the leaves up.

A grammar with several levels of precedence first yields trees whose operands are trees, and
`Tree.flatten` makes one tree of them.
-/

set_option autoImplicit false

namespace Backtrack

/-- A tree of binary operators over operands of type `α`. -/
inductive Tree (α : Type) where
  /-- An operand. -/
  | leaf (operand : α)
  /-- An operator between two trees. -/
  | node (op : String) (lhs rhs : Tree α)
deriving DecidableEq, Repr

namespace Tree

variable {α β : Type}

/-- Work out a tree from the leaves up. -/
def fold (onLeaf : α → β) (onNode : String → β → β → β) : Tree α → β
  | leaf a => onLeaf a
  | node op l r => onNode op (l.fold onLeaf onNode) (r.fold onLeaf onNode)

/-- Change every operand. -/
def map (f : α → β) (t : Tree α) : Tree β := t.fold (fun a => leaf (f a)) node

/-- The number of operators in a tree. -/
def operatorCount (t : Tree α) : Nat := t.fold (fun _ => 0) fun _ m n => m + n + 1

/-- Make one tree of a tree whose operands are trees. -/
def flatten : Tree (Tree α) → Tree α
  | leaf t => t
  | node op l r => node op l.flatten r.flatten

/-- The operands of a tree from left to right. -/
def operands (t : Tree α) : List α := t.fold (fun a => [a]) fun _ l r => l ++ r

/-- The text of a tree, with round brackets around every operation. -/
def render (text : α → String) (t : Tree α) : String :=
  t.fold text fun op l r => "(" ++ l ++ " " ++ op ++ " " ++ r ++ ")"

/-- The text of a tree with every operator after its operands. -/
def renderPolish (text : α → String) (t : Tree α) : String :=
  t.fold text fun op l r => l ++ " " ++ r ++ " " ++ op

end Tree

end Backtrack
