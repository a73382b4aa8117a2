import Backtrack.Proofs.Arithmetic.Recognition
import Backtrack.Proofs.Termination
import Mathlib

/-!
# Unrolling the grammar of arithmetic expressions

An expression contains expressions, and `exprWith` leaves open what reads the inner ones.  Put into
itself again and again it gives parsers for deeper and deeper brackets, with some parser at the
bottom that is meant never to be run.  It is not run indeed, as long as there are more levels than
opening brackets to read: every inner expression stands behind an opening bracket that has been
read, and whatever fails or falls back after that starts again no further back than where the
expression itself began.

* `Agree n p q` — the parsers do the same wherever fewer than `n` opening brackets are left to read.
  Most combinators keep `n`, since parsers only move forward; round brackets raise it by one
  (`Agree.parens`), and that is the step of the induction;
* `unrolled bottom n` — the grammar unrolled `n` times over a bottom;
* `unrolled_eq_expr` — with more levels than brackets the bottom does not matter.

So `expr` is the one parser that is its own inner parser.
-/

set_option autoImplicit false

namespace Backtrack

namespace Arithmetic

open Backtrack.Parser Cursor

variable {α β γ : Type} {n : Nat} {p q : Parser α} {c d : Cursor}

/-! ## Parsers that agree where few brackets are left -/

/-- The parsers do the same wherever fewer than `n` opening brackets are left to read. -/
def Agree (n : Nat) (p q : Parser α) : Prop := ∀ c : Cursor, c.rest.count '(' < n → p c = q c

/-- No bracket comes back. -/
theorem count_lt_of_reaches (h : c.Reaches d) (hc : c.rest.count '(' < n) :
    d.rest.count '(' < n := by
  obtain ⟨w, hw, -⟩ := h
  rw [hw, List.count_append] at hc
  omega

theorem Agree.refl (n : Nat) (p : Parser α) : Agree n p p := fun _ _ => rfl

theorem Agree.bind_left (h : Agree n p q) (f : α → Parser β) :
    Agree n (p >>= f) (q >>= f) := by
  intro c hc
  rw [bind_apply, bind_apply, h c hc]

theorem Agree.bind_right {f g : α → Parser β} (hp : p.Forward) (h : ∀ v, Agree n (f v) (g v)) :
    Agree n (p >>= f) (p >>= g) := by
  intro c hc
  rw [bind_apply, bind_apply]
  split
  · exact h _ _ (count_lt_of_reaches (hp ‹_›) hc)
  · rfl
  · rfl

theorem Agree.map (h : Agree n p q) (f : α → β) : Agree n (Parser.map f p) (Parser.map f q) := by
  intro c hc
  rw [Parser.map, Parser.map, h c hc]

theorem Agree.either {p' q' : Parser α} (h : Agree n p q) (h' : Agree n p' q') :
    Agree n (either p p') (either q q') := by
  intro c hc
  rw [Parser.either, Parser.either, h c hc, h' c hc]

theorem Agree.delimitedBy {opening : Parser β} {closing : Parser γ} (ho : opening.Forward)
    (h : Agree n p q) :
    Agree n (delimitedBy opening p closing) (delimitedBy opening q closing) :=
  .bind_right ho fun _ => h.bind_left _

theorem Agree.spaced (h : Agree n p q) : Agree n (spaced p) (spaced q) :=
  h.delimitedBy (Forward.many (satisfy_forward _))

/-- **Brackets raise the bound.**  Where an opening bracket has been read, one fewer is left. -/
theorem Agree.parens (h : Agree n p q) : Agree (n + 1) (parens p) (parens q) := by
  intro c hc
  show (char '(' >>= _) c = (char '(' >>= _) c
  rw [bind_apply, bind_apply]
  split
  next x d hx =>
    obtain ⟨hbracket, hrest, -⟩ := satisfy_eq_ok hx
    obtain rfl : x = '(' := eq_of_beq hbracket
    have hd : d.rest.count '(' < n := by
      rw [hrest, List.count_cons_self] at hc
      exact Nat.lt_of_succ_lt_succ hc
    exact h.bind_left _ d hd
  · rfl
  · rfl

/-- Loops agree if each round does, given that all rounds with less to read do. -/
theorem agree_of_rounds {σ : Type} (loop loop' : σ → Parser α)
    (hround : ∀ s c, c.rest.count '(' < n →
      (∀ s' d, d.rest.length < c.rest.length → d.rest.count '(' < n → loop s' d = loop' s' d) →
        loop s c = loop' s c) (s : σ) : Agree n (loop s) (loop' s) := by
  intro c hc
  induction hlength : c.rest.length using Nat.strongRecOn generalizing s c with
  | ind k ih => exact hround s c hc fun s' d hlt hd => ih _ (hlength ▸ hlt) s' d hd rfl

section Operators

variable {symbol : Parser String} (hs : symbol.Forward) (hp : p.Forward) (h : Agree n p q)

include hs hp h

theorem Agree.leftLoop (t : Tree α) : Agree n (leftLoop symbol p t) (leftLoop symbol q t) := by
  refine agree_of_rounds (Parser.leftLoop symbol p) (Parser.leftLoop symbol q)
    (fun t c hc ih => ?_) t
  rw [Parser.leftLoop, Parser.leftLoop]
  split
  next op d hop =>
    have hd := count_lt_of_reaches (hs hop) hc
    rw [← h d hd]
    split
    next v d' hv =>
      split
      next hlt => exact ih _ d' hlt (count_lt_of_reaches (hp hv) hd)
      · rfl
    · rfl
    · rfl
  · rfl
  · rfl

theorem Agree.leftOperators : Agree n (leftOperators symbol p) (leftOperators symbol q) := by
  intro c hc
  rw [Parser.leftOperators, Parser.leftOperators, ← h c hc]
  split
  next v d hv => exact h.leftLoop hs hp (.leaf v) d (count_lt_of_reaches (hp hv) hc)
  · rfl
  · rfl

theorem Agree.rightOperators : Agree n (rightOperators symbol p) (rightOperators symbol q) := by
  refine agree_of_rounds (fun _ : Unit => Parser.rightOperators symbol p)
    (fun _ => Parser.rightOperators symbol q) (fun _ c hc ih => ?_) ()
  rw [Parser.rightOperators, Parser.rightOperators, ← h c hc]
  split
  next v d hv =>
    split
    next op d' hop =>
      have hd := count_lt_of_reaches (hs hop) (count_lt_of_reaches (hp hv) hc)
      split
      next hlt => rw [ih () d' hlt hd]
      · rfl
    · rfl
    · rfl
  · rfl
  · rfl

end Operators

theorem Agree.operators (o : Operators) {p q : Parser (Tree Float)} (hp : p.Forward)
    (h : Agree n p q) : Agree n (operators o p) (operators o q) := by
  have hs : o.symbol.Forward := firstSymbol_forward _ _
  refine Agree.map ?_ Tree.flatten
  rw [Operators.parser, Operators.parser]
  cases o.assoc with
  | left => exact h.leftOperators hs hp
  | right => exact h.rightOperators hs hp

/-! ## Unrolling -/

variable {self other bottom : Parser (Tree Float)}

/-- **One level for one bracket.**  Expressions agree up to one bracket more than their inner
expressions do. -/
theorem Agree.exprWith (hself : Composed (fun _ => True) self) (h : Agree n self other) :
    Agree (n + 1) (exprWith self) (exprWith other) := by
  have hatom : Agree (n + 1) (atom self) (atom other) := (Agree.refl _ _).either h.parens
  have hpowers := hatom.operators powers (Composed.atom hself).forward
  have hproducts := hpowers.operators products (Composed.flatOperators _ (.atom hself)).forward
  have hsums := hproducts.operators sums
    (Composed.flatOperators _ (.flatOperators _ (.atom hself))).forward
  exact hsums.spaced

/-- The grammar put into itself `n` times, with `bottom` for the expressions that are nested
deeper. -/
def unrolled (bottom : Parser (Tree Float)) : Nat → Parser (Tree Float)
  | 0 => bottom
  | n + 1 => exprWith (unrolled bottom n)

theorem unrolled_mismatch (n : Nat) : unrolled .mismatch n = level n := by
  induction n with
  | zero => rfl
  | succ n ih => rw [unrolled, ih, level]

theorem unrolled_add (bottom : Parser (Tree Float)) (m n : Nat) :
    unrolled bottom (n + m) = unrolled (unrolled bottom m) n := by
  induction n with
  | zero => rw [Nat.zero_add, unrolled]
  | succ n ih => rw [Nat.succ_add, unrolled, ih, unrolled]

/-- A parser that is its own inner parser is unrolled to itself. -/
theorem unrolled_eq_self (h : exprWith self = self) (n : Nat) : unrolled self n = self := by
  induction n with
  | zero => rfl
  | succ n ih => rw [unrolled, ih, h]

/-- The bottom is not run where there are more levels than brackets. -/
theorem agree_level_unrolled (bottom : Parser (Tree Float)) (n : Nat) :
    Agree n (level n) (unrolled bottom n) := by
  induction n with
  | zero => exact fun c hc => absurd hc (Nat.not_lt_zero _)
  | succ n ih => exact ih.exprWith (.level n)

/-- **More levels than brackets are enough**, whatever is at the bottom. -/
theorem unrolled_eq_expr (bottom : Parser (Tree Float)) (hc : c.rest.count '(' < n) :
    unrolled bottom n c = expr c := by
  obtain ⟨m, rfl⟩ := Nat.exists_eq_add_of_lt hc
  rw [show c.rest.count '(' + m + 1 = c.rest.count '(' + 1 + m by omega, unrolled_add]
  exact (agree_level_unrolled _ _ c (Nat.lt_succ_self _)).symm

/-- **The inner expressions of an expression are read like the expression itself.** -/
theorem exprWith_expr : exprWith expr = expr := by
  funext c
  have hagree : Agree (c.rest.count '(') (level (c.rest.count '(')) expr := by
    intro d hd
    rw [← unrolled_mismatch]
    exact unrolled_eq_expr _ hd
  exact (hagree.exprWith (.level _) c (Nat.lt_succ_self _)).symm

/-- **Reading expressions comes to an end, however deep the brackets are.**  The grammar unrolled
more often than there are opening brackets to read has one and the same outcome, which is that of
`expr`, whatever is at the bottom, so the recursion goes at most one level deeper for each of them.
The outcome is never that reading goes on for ever, and `expr` is the only parser that reads its
inner expressions like itself. -/
theorem level_stabilizes :
    (∀ (k m n : Nat) (c : Cursor), c.rest.count '(' ≤ k → k < m → k < n →
      level m c = level n c) ∧
    (∀ (bottom : Parser (Tree Float)) (n : Nat) (c : Cursor), c.rest.count '(' < n →
      unrolled bottom n c = expr c) ∧
    (∀ c, expr c ≠ .diverge) ∧
    ∀ p : Parser (Tree Float), exprWith p = p ↔ p = expr := by
  refine ⟨fun k m n c hk hm hn => ?_, fun bottom n c => unrolled_eq_expr bottom,
    expr_reads.ne_diverge, fun p => ⟨fun hp => ?_, ?_⟩⟩
  · rw [← unrolled_mismatch, ← unrolled_mismatch, unrolled_eq_expr _ (Nat.lt_of_le_of_lt hk hm),
      unrolled_eq_expr _ (Nat.lt_of_le_of_lt hk hn)]
  · funext c
    rw [← unrolled_eq_expr p (Nat.lt_succ_self _), unrolled_eq_self hp]
  · rintro rfl
    exact exprWith_expr

/-- Two brackets, read to the end by three levels and not by two. -/
theorem level_stabilizes_twoBrackets :
    level 2 (.start "((1))".toList) = .error .mismatch ∧
    level 3 (.start "((1))".toList) = level 7 (.start "((1))".toList) ∧
    unrolled (fun _ => .diverge) 3 (.start "((1))".toList) = expr (.start "((1))".toList) ∧
    expr (.start "((1))".toList) ≠ .diverge ∧ exprWith expr = expr := by
  obtain ⟨hlevels, hbottom, hreturns, hself⟩ := level_stabilizes
  exact ⟨by cbv, hlevels 2 3 7 _ (by decide) (by decide) (by decide),
    hbottom _ 3 _ (by decide), hreturns _, (hself expr).2 rfl⟩

end Arithmetic

end Backtrack
