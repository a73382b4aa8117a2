import Backtrack.Arithmetic
import Backtrack.Proofs.Number
import Backtrack.Proofs.Operator.Chain
import Backtrack.Proofs.Operator.Symbol

/-!
# The grammar of arithmetic expressions

The grammar that the parser is meant to recognise, as a relation between texts and trees:

```text
sum     := product (("+" | "-") product)*
product := power (("*" | "/") power)*
power   := atom (("^" | "**") power)?
atom    := number | "(" sum ")"
```

A repetition groups to the left, so it is written here as a rule that refers to itself on the left.
Gaps may stand before, between and after the tokens.  `IsSymbol` has them around an operator and the
rule for brackets has them inside; `IsExpr` adds those around the whole expression.

Apart from the relation, this file holds what can be seen of a derivation from outside: the
characters with which it begins, and the chains of which its levels are made.
-/

set_option autoImplicit false

namespace Backtrack

namespace Arithmetic

open Numeral Backtrack.Parser

/-- The operators of all levels. -/
def operatorSymbols : List String := ["^", "**", "*", "/", "+", "-"]

/-- The levels of the grammar. -/
inductive Rank where
  | atom
  | power
  | product
  | sum
deriving DecidableEq, Repr

/-- A text is an expression of a level with a tree. -/
inductive Derives : Rank → Text → Tree Float → Prop
  /-- An atom is a number. -/
  | number {w : Text} (hw : IsNumeral w) : Derives .atom w (.leaf (toFloat w))
  /-- An atom is a sum in round brackets. -/
  | parens {a w b : Text} {t : Tree Float} (ha : IsGap a) (hw : Derives .sum w t) (hb : IsGap b) :
      Derives .atom (['('] ++ ((a ++ (w ++ b)) ++ [')'])) t
  /-- A power is an atom. -/
  | ofAtom {w : Text} {t : Tree Float} (hw : Derives .atom w t) : Derives .power w t
  /-- A power is an atom to the power of a power. -/
  | power {l m r : Text} {t s : Tree Float} {op : String} (hl : Derives .atom l t)
      (hm : IsSymbol ["^", "**"] m op) (hr : Derives .power r s) :
      Derives .power (l ++ (m ++ r)) (.node op t s)
  /-- A product is a power. -/
  | ofPower {w : Text} {t : Tree Float} (hw : Derives .power w t) : Derives .product w t
  /-- A product is a product times or by a power. -/
  | product {l m r : Text} {t s : Tree Float} {op : String} (hl : Derives .product l t)
      (hm : IsSymbol ["*", "/"] m op) (hr : Derives .power r s) :
      Derives .product (l ++ (m ++ r)) (.node op t s)
  /-- A sum is a product. -/
  | ofProduct {w : Text} {t : Tree Float} (hw : Derives .product w t) : Derives .sum w t
  /-- A sum is a sum plus or minus a product. -/
  | sum {l m r : Text} {t s : Tree Float} {op : String} (hl : Derives .sum l t)
      (hm : IsSymbol ["+", "-"] m op) (hr : Derives .product r s) :
      Derives .sum (l ++ (m ++ r)) (.node op t s)

/-- A text is an expression with a tree: a sum with gaps around it. -/
def IsExpr (s : Text) (t : Tree Float) : Prop :=
  ∃ a w b, s = a ++ (w ++ b) ∧ IsGap a ∧ Derives .sum w t ∧ IsGap b

/-! ## How expressions begin -/

/-- The characters with which an expression begins. -/
def startChars : Text := '.' :: '(' :: digitChars

/-- An expression begins with a digit, a point or a bracket. -/
theorem Derives.exists_cons {k : Rank} {w : Text} {t : Tree Float} (h : Derives k w t) :
    ∃ x w', w = x :: w' ∧ x ∈ startChars := by
  induction h with
  | number hw =>
    obtain ⟨x, w', rfl, hx⟩ := hw.exists_cons
    refine ⟨x, w', rfl, ?_⟩
    rcases hx with hx | rfl
    · exact List.mem_cons_of_mem _ (List.mem_cons_of_mem _ (by simpa [isDigit] using hx))
    · exact List.mem_cons_self
  | parens => exact ⟨'(', _, rfl, by decide⟩
  | ofAtom _ ih | ofPower _ ih | ofProduct _ ih => exact ih
  | power _ _ _ ih _ | product _ _ _ ih _ | sum _ _ _ ih _ =>
    obtain ⟨x, w', rfl, hx⟩ := ih
    exact ⟨x, _, rfl, hx⟩

/-- An expression does not begin with a gap. -/
theorem Derives.run_append {k : Rank} {w : Text} {t : Tree Float} (h : Derives k w t) {a : Text}
    (ha : IsGap a) (r : Text) : Text.Run isWhite a (w ++ r) := by
  refine ⟨ha, ?_⟩
  obtain ⟨x, w', rfl, hx⟩ := h.exists_cons
  intro y hy
  obtain rfl : x = y := by simpa using hy
  have hall : ∀ x ∈ startChars, isWhite x = false :=
    Text.forall_mem_of_all (by decide)
  exact hall x hx

/-! ## The levels as chains

Each level of the parser builds a tree whose leaves are the trees of its operands, and flattens it
in the end.  The bracket count says how often the grammar can refer to itself. -/

/-- The expressions of a level that have at most `n` opening brackets. -/
def Bounded (n : Nat) (k : Rank) (w : Text) (t : Tree Float) : Prop :=
  Derives k w t ∧ w.count '(' ≤ n

variable {n : Nat}

theorem Bounded.rightChain : ∀ {w : Text} {t : Tree Float}, Derives .power w t →
    w.count '(' ≤ n →
      ∃ T, RightChain (IsSymbol ["^", "**"]) (Bounded n .atom) w T ∧ T.flatten = t
  | _, _, .ofAtom hw, hn => ⟨.leaf _, .operand ⟨hw, hn⟩, rfl⟩
  | _, _, .power hl hm hr, hn => by
    simp only [List.count_append] at hn
    obtain ⟨T, hT, rfl⟩ := Bounded.rightChain hr (by omega)
    exact ⟨.node _ (.leaf _) T, .step ⟨hl, by omega⟩ hm hT, rfl⟩

theorem Bounded.leftChain_product : ∀ {w : Text} {t : Tree Float}, Derives .product w t →
    w.count '(' ≤ n →
      ∃ T, LeftChain (IsSymbol ["*", "/"]) (Bounded n .power) w T ∧ T.flatten = t
  | _, _, .ofPower hw, hn => ⟨.leaf _, .operand ⟨hw, hn⟩, rfl⟩
  | _, _, .product hl hm hr, hn => by
    simp only [List.count_append] at hn
    obtain ⟨T, hT, rfl⟩ := Bounded.leftChain_product hl (by omega)
    exact ⟨.node _ T (.leaf _), .step hT hm ⟨hr, by omega⟩, rfl⟩

theorem Bounded.leftChain_sum : ∀ {w : Text} {t : Tree Float}, Derives .sum w t →
    w.count '(' ≤ n →
      ∃ T, LeftChain (IsSymbol ["+", "-"]) (Bounded n .product) w T ∧ T.flatten = t
  | _, _, .ofProduct hw, hn => ⟨.leaf _, .operand ⟨hw, hn⟩, rfl⟩
  | _, _, .sum hl hm hr, hn => by
    simp only [List.count_append] at hn
    obtain ⟨T, hT, rfl⟩ := Bounded.leftChain_sum hl (by omega)
    exact ⟨.node _ T (.leaf _), .step hT hm ⟨hr, by omega⟩, rfl⟩

end Arithmetic

end Backtrack
