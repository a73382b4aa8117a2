import Backtrack.Proofs.Arithmetic.Recognition

/-!
# Printing arithmetic expressions and reading them back

There are two ways to write a tree.  `render` puts round brackets around every operation, so that
nothing depends on how tightly operators bind.  `renderTight` writes as few brackets as it can:
around a left or right operand only if it binds less tightly than the operator, or as tightly but
on the side to which the operator does not group.  The gaps around its operators are free, each of
them for itself.

Either way the tree is read back (`ended_expr_run_render`).  Both texts are expressions of the
grammar with the tree that was written, and the parser does the rest: what has to be shown is only
that the brackets are where the grammar needs them.
-/

set_option autoImplicit false

namespace Backtrack

namespace Arithmetic

open Numeral Backtrack.Parser

/-! ## How tightly operators bind -/

/-- How tightly expressions of a rank bind. -/
def Rank.binding : Rank → Nat
  | sum => 1
  | product => 2
  | power => 3
  | atom => 4

/-- The rank of an operation. -/
def operatorRank : String → Rank
  | "+" => .sum
  | "-" => .sum
  | "*" => .product
  | "/" => .product
  | _ => .power

/-- The rank of a tree, which is that of its outermost operation. -/
def treeRank : Tree Float → Rank
  | .leaf _ => .atom
  | .node op _ _ => operatorRank op

/-- Whether an operator groups to the right. -/
def groupsRight (op : String) : Bool := operatorRank op == .power

/-- An expression is also one of every looser rank. -/
theorem Derives.loosen {j k : Rank} {w : Text} {t : Tree Float} (h : Derives j w t)
    (hk : k.binding ≤ j.binding) : Derives k w t := by
  have hpower : j = .atom → Derives .power w t := by
    rintro rfl
    exact .ofAtom h
  have hproduct : j = .atom ∨ j = .power → Derives .product w t := by
    rintro (rfl | rfl)
    · exact .ofPower (hpower rfl)
    · exact .ofPower h
  cases j <;> cases k <;> simp [Rank.binding] at hk
  · exact h
  · exact hpower rfl
  · exact hproduct (.inl rfl)
  · exact .ofProduct (hproduct (.inl rfl))
  · exact h
  · exact hproduct (.inr rfl)
  · exact .ofProduct (hproduct (.inr rfl))
  · exact h
  · exact .ofProduct h
  · exact h

/-! ## The printers -/

/-- A branch of an operation. -/
inductive Side where
  | left
  | right
deriving DecidableEq, Repr

/-- The gaps on both sides of each operator of a tree, which is named by the branches that lead to
it from the root. -/
structure Spacing where
  /-- What is written in front of an operator. -/
  before : List Side → Text
  /-- What is written behind an operator. -/
  after : List Side → Text
  before_isGap : ∀ path, IsGap (before path)
  after_isGap : ∀ path, IsGap (after path)

/-- The gaps in a branch. -/
def Spacing.branch (g : Spacing) (side : Side) : Spacing where
  before path := g.before (side :: path)
  after path := g.after (side :: path)
  before_isGap path := g.before_isGap (side :: path)
  after_isGap path := g.after_isGap (side :: path)

/-- No gaps. -/
def Spacing.none : Spacing := ⟨fun _ => [], fun _ => [], fun _ => isGap_nil, fun _ => isGap_nil⟩

/-- Whether the left operand of an operator is written in brackets. -/
def leftBracketed (op : String) (l : Tree Float) : Bool :=
  decide ((treeRank l).binding < (operatorRank op).binding) ||
    (groupsRight op && treeRank l == operatorRank op)

/-- Whether the right operand of an operator is written in brackets. -/
def rightBracketed (op : String) (r : Tree Float) : Bool :=
  decide ((treeRank r).binding < (operatorRank op).binding) ||
    (!groupsRight op && treeRank r == operatorRank op)

/-- Put round brackets around a text if `b` holds. -/
def bracket (b : Bool) (w : Text) : Text := if b then ['('] ++ (w ++ [')']) else w

/-- The text of a tree with no more brackets than its shape needs. -/
def renderTight (g : Spacing) : Tree Float → Text
  | .leaf x => ofFloat x
  | .node op l r =>
    bracket (leftBracketed op l) (renderTight (g.branch .left) l) ++
      (g.before [] ++ (op.toList ++ g.after []) ++
        bracket (rightBracketed op r) (renderTight (g.branch .right) r))

/-- A tree over the arithmetic operators whose numbers are written as numerals that read back. -/
def Printable : Tree Float → Prop
  | .leaf x => IsNumeral (ofFloat x) ∧ toFloat (ofFloat x) = x
  | .node op l r => op ∈ operatorSymbols ∧ Printable l ∧ Printable r

/-! ## What is printed is an expression -/

/-- What the left operand of an operator has to be. -/
def leftRank (op : String) : Rank :=
  match operatorRank op with
  | .power => .atom
  | k => k

/-- What the right operand of an operator has to be. -/
def rightRank (op : String) : Rank :=
  match operatorRank op with
  | .sum => .product
  | .product => .power
  | k => k

/-- **An operator between operands of the right ranks makes an expression of its own rank.** -/
theorem derives_node {op : String} (hop : op ∈ operatorSymbols) {l r a b : Text}
    {t s : Tree Float} (hl : Derives (leftRank op) l t) (hr : Derives (rightRank op) r s)
    (ha : IsGap a) (hb : IsGap b) :
    Derives (operatorRank op) (l ++ (a ++ (op.toList ++ b) ++ r)) (.node op t s) := by
  simp only [operatorSymbols, List.mem_cons, List.not_mem_nil, or_false] at hop
  rcases hop with rfl | rfl | rfl | rfl | rfl | rfl
  · exact .power hl ⟨a, b, rfl, ha, by simp, hb⟩ hr
  · exact .power hl ⟨a, b, rfl, ha, by simp, hb⟩ hr
  · exact .product hl ⟨a, b, rfl, ha, by simp, hb⟩ hr
  · exact .product hl ⟨a, b, rfl, ha, by simp, hb⟩ hr
  · exact .sum hl ⟨a, b, rfl, ha, by simp, hb⟩ hr
  · exact .sum hl ⟨a, b, rfl, ha, by simp, hb⟩ hr

theorem derives_parens {k : Rank} {w : Text} {t : Tree Float} (h : Derives k w t) :
    Derives .atom (['('] ++ (w ++ [')'])) t := by
  have hsum : Derives .sum w t := h.loosen (by cases k <;> simp [Rank.binding])
  simpa using Derives.parens isGap_nil hsum isGap_nil

/-- With brackets a text is an expression of every rank, and without them of those that bind no more
tightly. -/
theorem derives_bracket {j k : Rank} {w : Text} {t : Tree Float} (h : Derives j w t) {b : Bool}
    (hb : b = false → k.binding ≤ j.binding) : Derives k (bracket b w) t := by
  cases b with
  | true => exact (derives_parens h).loosen (by cases k <;> simp [Rank.binding])
  | false => exact h.loosen (hb rfl)

theorem leftRank_binding_le {op : String} {l : Tree Float} (h : leftBracketed op l = false) :
    (leftRank op).binding ≤ (treeRank l).binding := by
  revert h
  rw [leftBracketed, groupsRight, leftRank]
  cases operatorRank op <;> cases treeRank l <;> decide

theorem rightRank_binding_le {op : String} {r : Tree Float} (h : rightBracketed op r = false) :
    (rightRank op).binding ≤ (treeRank r).binding := by
  revert h
  rw [rightBracketed, groupsRight, rightRank]
  cases operatorRank op <;> cases treeRank r <;> decide

/-- **The text with few brackets is an expression of the tree's rank.** -/
theorem derives_renderTight {t : Tree Float} (ht : Printable t) (g : Spacing) :
    Derives (treeRank t) (renderTight g t) t := by
  induction t generalizing g with
  | leaf x =>
    have h := Derives.number ht.1
    rwa [ht.2] at h
  | node op l r ihl ihr =>
    obtain ⟨hop, hl, hr⟩ := ht
    exact derives_node hop (derives_bracket (ihl hl _) leftRank_binding_le)
      (derives_bracket (ihr hr _) rightRank_binding_le) (g.before_isGap []) (g.after_isGap [])

/-- **The text with all brackets is an atom.** -/
theorem derives_render {t : Tree Float} (ht : Printable t) :
    Derives .atom (render t).toList t := by
  induction t with
  | leaf x =>
    have h := Derives.number ht.1
    rw [ht.2] at h
    simpa [render, Tree.render, Tree.fold] using h
  | node op l r ihl ihr =>
    obtain ⟨hop, hl, hr⟩ := ht
    have hspace : IsGap [' '] := by decide
    have hl' : Derives (leftRank op) (render l).toList l :=
      (ihl hl).loosen (by cases leftRank op <;> simp [Rank.binding])
    have hr' : Derives (rightRank op) (render r).toList r :=
      (ihr hr).loosen (by cases rightRank op <;> simp [Rank.binding])
    have h := derives_parens (derives_node hop hl' hr' hspace hspace)
    simpa [render, Tree.render, Tree.fold] using h

/-- A printed text is an expression as it stands. -/
theorem Derives.isExpr {k : Rank} {w : Text} {t : Tree Float} (h : Derives k w t) : IsExpr w t :=
  ⟨[], w, [], by simp, isGap_nil, h.loosen (by cases k <;> simp [Rank.binding]), isGap_nil⟩

/-- **What is printed is read back.**  A tree is read from its text with all brackets and from its
text with few brackets, whatever gaps there are around the operators, and nothing of the text is
left. -/
theorem ended_expr_run_render {t : Tree Float} (ht : Printable t) :
    (ended expr).run (render t).toList = .ok t ⟨(render t).toList.reverse, []⟩ ∧
      ∀ g, (ended expr).run (renderTight g t) = .ok t ⟨(renderTight g t).reverse, []⟩ :=
  ⟨ended_expr_eq_ok_iff.2 ⟨(derives_render ht).isExpr, rfl⟩,
    fun g => ended_expr_eq_ok_iff.2 ⟨(derives_renderTight ht g).isExpr, rfl⟩⟩

/-- A tree that needs brackets on both sides: around a power on the left of a power, and around a
difference on the right of a difference. -/
def nestedOperands : Tree Float :=
  .node "-" (.leaf 1.5) (.node "-" (.node "**" (.node "^" (.leaf 2) (.leaf 3)) (.leaf 0.25))
    (.leaf 7))

theorem printable_digit {x : Float} {c : Char} (hx : ofFloat x = [c]) (hc : isDigit c = true)
    (hval : toFloat [c] = x) : Printable (.leaf x) :=
  ⟨hx ▸ .whole ⟨by simp, by simpa using hc⟩, by rw [hx, hval]⟩

theorem printable_pointed {x : Float} {a : Char} {f : Text} (hx : ofFloat x = a :: '.' :: f)
    (ha : isDigit a = true) (hf : IsDigits f) (hval : toFloat (a :: '.' :: f) = x) :
    Printable (.leaf x) :=
  ⟨hx ▸ .pointed (w := [a]) (by simpa using ha) hf, by rw [hx, hval]⟩

theorem printable_nestedOperands : Printable nestedOperands := by
  have h₁ : Printable (.leaf 1.5) :=
    printable_pointed (a := '1') (f := ['5']) (by decide +kernel) rfl ⟨by simp, by simp; rfl⟩
      (by decide +kernel)
  have h₂ : Printable (.leaf 2) :=
    printable_digit (c := '2') (by decide +kernel) rfl (by decide +kernel)
  have h₃ : Printable (.leaf 3) :=
    printable_digit (c := '3') (by decide +kernel) rfl (by decide +kernel)
  have h₄ : Printable (.leaf 0.25) :=
    printable_pointed (a := '0') (f := ['2', '5']) (by decide +kernel) rfl
      ⟨by simp, by simp; exact ⟨rfl, rfl⟩⟩ (by decide +kernel)
  have h₇ : Printable (.leaf 7) :=
    printable_digit (c := '7') (by decide +kernel) rfl (by decide +kernel)
  exact ⟨by decide, h₁, by decide, ⟨by decide, ⟨by decide, h₂, h₃⟩, h₄⟩, h₇⟩

theorem ended_expr_run_nestedOperands : Printable nestedOperands ∧
    (ended expr).run "1.5-((2^3)**0.25-7)".toList =
      .ok nestedOperands ⟨"1.5-((2^3)**0.25-7)".toList.reverse, []⟩ := by
  have htext : renderTight .none nestedOperands = "1.5-((2^3)**0.25-7)".toList := by
    decide +kernel
  have h := (ended_expr_run_render printable_nestedOperands).2 .none
  rw [htext] at h
  exact ⟨printable_nestedOperands, h⟩

end Arithmetic

end Backtrack
