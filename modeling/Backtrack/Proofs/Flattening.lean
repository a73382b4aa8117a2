import Backtrack.Arithmetic
import Mathlib.Algebra.Ring.Nat

/-!
# Flattening keeps the meaning

A level of operators yields a tree whose operands are the trees of the next tighter level, and
flattening makes one tree of them.  Whatever is worked out from the leaves up can be worked out
before or after that: in the one case the operands are worked out first, each on its own, and then
the tree over what came of them (`Tree.fold_flatten`).

* The text of a tree, the number of its operators and its value are worked out from the leaves up,
  so this is true of them.  Flattening itself is as well (`Tree.flatten_eq_fold`), and so with three
  levels it does not matter which two are flattened first.
* A level of operators does not look at its operands (`Operators.parser_map`), so it can be evaluated
  over the values of its operands instead of over their trees (`Arithmetic.map_evaluate_operators`).
-/

set_option autoImplicit false

namespace Backtrack

/-! ## Trees -/

namespace Tree

variable {α β γ : Type}

@[simp] theorem fold_leaf (onLeaf : α → β) (onNode : String → β → β → β) (a : α) :
    (leaf a).fold onLeaf onNode = onLeaf a := rfl

@[simp] theorem fold_node (onLeaf : α → β) (onNode : String → β → β → β) (op : String)
    (l r : Tree α) : (node op l r).fold onLeaf onNode =
      onNode op (l.fold onLeaf onNode) (r.fold onLeaf onNode) := rfl

/-- **Working out a flattened tree** is working out the tree over its worked out operands. -/
theorem fold_flatten (t : Tree (Tree α)) (onLeaf : α → β) (onNode : String → β → β → β) :
    t.flatten.fold onLeaf onNode = t.fold (fold onLeaf onNode) onNode := by
  induction t with
  | leaf u => rfl
  | node op l r ihl ihr => rw [flatten, fold_node, fold_node, ihl, ihr]

theorem fold_map (t : Tree α) (f : α → β) (onLeaf : β → γ) (onNode : String → γ → γ → γ) :
    (t.map f).fold onLeaf onNode = t.fold (fun a => onLeaf (f a)) onNode := by
  induction t with
  | leaf a => rfl
  | node op l r ihl ihr =>
    rw [map] at ihl ihr ⊢
    rw [fold_node, fold_node, fold_node, ihl, ihr]

theorem flatten_eq_fold (t : Tree (Tree α)) : t.flatten = t.fold id node := by
  induction t with
  | leaf u => rfl
  | node op l r ihl ihr => rw [flatten, fold_node, ihl, ihr]

/-- **With three levels it does not matter which two are flattened first.** -/
theorem flatten_flatten (t : Tree (Tree (Tree α))) : t.flatten.flatten = (t.map flatten).flatten := by
  have hflatten : (fold id node : Tree (Tree α) → Tree α) = flatten :=
    funext fun u => (flatten_eq_fold u).symm
  calc t.flatten.flatten
    _ = t.fold (fold id node) node := by rw [flatten_eq_fold t.flatten, fold_flatten]
    _ = t.fold (fun u => id u.flatten) node := by rw [hflatten]; rfl
    _ = (t.map flatten).flatten := by rw [flatten_eq_fold, fold_map]

theorem render_flatten (text : α → String) (t : Tree (Tree α)) :
    t.flatten.render text = t.render (render text) :=
  fold_flatten t text _

/-- Operators are counted in the operands and above them. -/
theorem fold_add_one (count : α → Nat) (t : Tree α) :
    t.fold count (fun _ m n => m + n + 1) = t.operatorCount + (t.operands.map count).sum := by
  induction t with
  | leaf a => simp [operatorCount, operands]
  | node op l r ihl ihr =>
    have hcount : (node op l r).operatorCount = l.operatorCount + r.operatorCount + 1 := rfl
    have hoperands : (node op l r).operands = l.operands ++ r.operands := rfl
    rw [fold_node, ihl, ihr, hcount, hoperands, List.map_append, List.sum_append]
    omega

theorem operatorCount_flatten (t : Tree (Tree α)) :
    t.flatten.operatorCount = t.operatorCount + (t.operands.map operatorCount).sum := by
  rw [operatorCount, fold_flatten]
  exact fold_add_one operatorCount t

end Tree

/-! ## Levels of operators -/

namespace Parser

variable {α β : Type}

/-- The loop carries the operands along as they are. -/
theorem leftLoop_map (f : α → β) (symbol : Parser String) (operand : Parser α) (t : Tree α)
    (c : Cursor) :
    leftLoop symbol (Parser.map f operand) (t.map f) c =
      (leftLoop symbol operand t c).map (Tree.map f) := by
  fun_induction leftLoop symbol operand t c with
  | case1 t c op d hop v d' hv hlt ih =>
    rw [leftLoop, hop]
    simp only [Parser.map, hv, Outcome.map, if_pos hlt]
    exact ih
  | case2 t c op d hop v d' hv hlt =>
    rw [leftLoop, hop]
    simp only [Parser.map, hv, Outcome.map, if_neg hlt]
  | case3 t c op d hop e hv
  | case4 t c op d hop hv =>
    rw [leftLoop, hop]
    simp only [Parser.map, hv, Outcome.map]
  | case5 t c e hop
  | case6 t c hop =>
    rw [leftLoop, hop]
    rfl

theorem leftOperators_map (f : α → β) (symbol : Parser String) (operand : Parser α) :
    leftOperators symbol (Parser.map f operand) =
      Parser.map (Tree.map f) (leftOperators symbol operand) := by
  funext c
  rw [leftOperators, Parser.map, Parser.map, leftOperators]
  cases operand c with
  | ok v d => exact leftLoop_map f symbol operand (.leaf v) d
  | error e => rfl
  | diverge => rfl

theorem rightOperators_map (f : α → β) (symbol : Parser String) (operand : Parser α) (c : Cursor) :
    rightOperators symbol (Parser.map f operand) c =
      (rightOperators symbol operand c).map (Tree.map f) := by
  fun_induction rightOperators symbol operand c with
  | case1 c v d hv op d' hop hlt t d'' ht ih
  | case2 c v d hv op d' hop hlt e ht ih =>
    rw [rightOperators, Parser.map, hv]
    simp only [Outcome.map, hop, if_pos hlt, ih, ht]
    rfl
  | case3 c v d hv op d' hop hlt ht ih =>
    rw [rightOperators, Parser.map, hv]
    simp only [Outcome.map, hop, if_pos hlt, ih, ht]
  | case4 c v d hv op d' hop hlt =>
    rw [rightOperators, Parser.map, hv]
    simp only [Outcome.map, hop, if_neg hlt]
  | case5 c v d hv e hop =>
    rw [rightOperators, Parser.map, hv]
    simp only [Outcome.map, hop]
    rfl
  | case6 c v d hv hop =>
    rw [rightOperators, Parser.map, hv]
    simp only [Outcome.map, hop]
  | case7 c e hv
  | case8 c hv =>
    rw [rightOperators, Parser.map, hv]
    rfl

end Parser

/-- **A level of operators does not look at its operands.** -/
theorem Operators.parser_map {α β : Type} (o : Operators) (f : α → β) (operand : Parser α) :
    o.parser (Parser.map f operand) = Parser.map (Tree.map f) (o.parser operand) := by
  rw [Operators.parser, Operators.parser]
  cases o.assoc with
  | left => exact Parser.leftOperators_map f o.symbol operand
  | right => exact funext fun c => Parser.rightOperators_map f o.symbol operand c

/-! ## Values -/

namespace Arithmetic

theorem evaluate_flatten (t : Tree (Tree Float)) :
    evaluate t.flatten = evaluate (t.map evaluate) := by
  rw [evaluate, Tree.fold_flatten, evaluate, Tree.fold_map]
  rfl

/-- **A level of operators can be evaluated over the values of its operands.** -/
theorem map_evaluate_operators (o : Operators) (operand : Parser (Tree Float)) :
    Parser.map evaluate (operators o operand) =
      Parser.map evaluate (o.parser (Parser.map evaluate operand)) := by
  funext c
  rw [Operators.parser_map, operators]
  simp only [Parser.map]
  cases o.parser operand c with
  | ok t d => exact congrArg (Outcome.ok · d) (evaluate_flatten t)
  | error e => rfl
  | diverge => rfl

end Arithmetic

/-- **Flattening keeps the meaning.**  Working out a flattened tree from the leaves up is working out
the tree over its worked out operands.  So a tree and the flattened tree have the same text; the
value of the flattened tree is the value of the tree over the values of its operands, and a level of
operators can be evaluated that way as well; the operators of the flattened tree are those of the
tree and those of its operands; and three levels can be flattened from the outside in or from the
inside out. -/
theorem flatten_keeps_meaning {α β : Type} :
    (∀ (t : Tree (Tree α)) (onLeaf : α → β) (onNode : String → β → β → β),
      t.flatten.fold onLeaf onNode = t.fold (Tree.fold onLeaf onNode) onNode) ∧
    (∀ (t : Tree (Tree α)) (text : α → String),
      t.flatten.render text = t.render (Tree.render text)) ∧
    (∀ t : Tree (Tree Float),
      Arithmetic.evaluate t.flatten = Arithmetic.evaluate (t.map Arithmetic.evaluate)) ∧
    (∀ (o : Operators) (operand : Parser (Tree Float)),
      Parser.map Arithmetic.evaluate (Arithmetic.operators o operand) =
        Parser.map Arithmetic.evaluate (o.parser (Parser.map Arithmetic.evaluate operand))) ∧
    (∀ t : Tree (Tree α), t.flatten.operatorCount =
      t.operatorCount + (t.operands.map Tree.operatorCount).sum) ∧
    ∀ t : Tree (Tree (Tree α)), t.flatten.flatten = (t.map Tree.flatten).flatten :=
  ⟨Tree.fold_flatten, fun t text => Tree.render_flatten text t, Arithmetic.evaluate_flatten,
    Arithmetic.map_evaluate_operators, Tree.operatorCount_flatten, Tree.flatten_flatten⟩

end Backtrack
