import Backtrack.Operator
import Backtrack.Proofs.Taking

/-!
# Chains of operands

What one level of operators reads is a chain: operands of some language with symbols between them.
`LeftChain` and `RightChain` are the same texts, but with the tree that grouping to the left or to
the right makes of them.

A level reads chains (`leftOperators_reads`, `rightOperators_reads`), and this needs no more than
that its symbols and its operands are read.  The other direction, that a chain is read as the chain
it is, needs that symbols and operands can be told apart: an operand must not be taken too far when
a symbol follows it, nor a symbol when an operand follows it.  That is what `Legible` asks.  Then

* `leftOperators_takes`, `rightOperators_takes` — a chain is taken as a whole in front of a text
  that continues neither its last operand nor the chain;
* `leftOperators_takesAtLeast`, `rightOperators_takesAtLeast` — no chain at the beginning of a text
  is longer than what is taken.
-/

set_option autoImplicit false

namespace Backtrack

variable {α : Type} {symbol : Parser String} {operand : Parser α}
variable {Sym : Text → String → Prop} {L : Text → α → Prop} {Stop : Text → Prop}

/-- Operands with symbols between them, grouped to the left. -/
inductive LeftChain (Sym : Text → String → Prop) (L : Text → α → Prop) : Text → Tree α → Prop
  /-- One operand. -/
  | operand {w : Text} {v : α} (hw : L w v) : LeftChain Sym L w (.leaf v)
  /-- A chain with one more symbol and operand behind it. -/
  | step {l m w : Text} {t : Tree α} {op : String} {v : α} (hl : LeftChain Sym L l t)
      (hm : Sym m op) (hw : L w v) : LeftChain Sym L (l ++ (m ++ w)) (.node op t (.leaf v))

/-- Operands with symbols between them, grouped to the right. -/
inductive RightChain (Sym : Text → String → Prop) (L : Text → α → Prop) : Text → Tree α → Prop
  /-- One operand. -/
  | operand {w : Text} {v : α} (hw : L w v) : RightChain Sym L w (.leaf v)
  /-- A chain with one more operand and symbol in front of it. -/
  | step {w m l : Text} {v : α} {op : String} {t : Tree α} (hw : L w v) (hm : Sym m op)
      (hl : RightChain Sym L l t) : RightChain Sym L (w ++ (m ++ l)) (.node op (.leaf v) t)

/-- A chain of trees is, as one tree, in every language that has the operands and is closed under
putting one more symbol and operand behind. -/
theorem LeftChain.flatten {L M : Text → Tree α → Prop} (hoperand : ∀ {w t}, L w t → M w t)
    (hstep : ∀ {l m w t op s}, M l t → Sym m op → L w s → M (l ++ (m ++ w)) (.node op t s))
    {w : Text} {T : Tree (Tree α)} (h : LeftChain Sym L w T) : M w T.flatten := by
  induction h with
  | operand hw => exact hoperand hw
  | step _ hm hw ih => exact hstep ih hm hw

/-- A chain of trees is, as one tree, in every language that has the operands and is closed under
putting one more operand and symbol in front. -/
theorem RightChain.flatten {L M : Text → Tree α → Prop} (hoperand : ∀ {w t}, L w t → M w t)
    (hstep : ∀ {w m l t op s}, L w t → Sym m op → M l s → M (w ++ (m ++ l)) (.node op t s))
    {w : Text} {T : Tree (Tree α)} (h : RightChain Sym L w T) : M w T.flatten := by
  induction h with
  | operand hw => exact hoperand hw
  | step hw hm _ ih => exact hstep hw hm ih

/-- A chain begins with an operand. -/
theorem RightChain.exists_operand {l : Text} {t : Tree α} (h : RightChain Sym L l t) :
    ∃ w v r, l = w ++ r ∧ L w v := by
  cases h with
  | operand hw => exact ⟨_, _, [], by simp, hw⟩
  | step hw => exact ⟨_, _, _, rfl, hw⟩

namespace Parser

/-! ## One round of the loop

A symbol is never empty, and that is why every round shortens the unread text. -/

theorem length_lt_append_append {m : Text} (hm : m ≠ []) (w r : Text) :
    r.length < (m ++ (w ++ r)).length := by
  have h := List.length_pos_iff.2 hm
  simp only [List.length_append]
  omega

theorem leftLoop_stop {t : Tree α} {r : Text} (h : symbol.Refuses r) :
    Takes (leftLoop symbol operand t) [] r t := by
  intro past
  rw [leftLoop, List.nil_append, h past]
  rfl

/-- A symbol that no operand follows is left where it is. -/
theorem leftLoop_dangling {t : Tree α} {m r : Text} {op : String} (hm : symbol.Takes m r op)
    (h : operand.Refuses r) : Takes (leftLoop symbol operand t) [] (m ++ r) t := by
  intro past
  rw [leftLoop, List.nil_append, hm past]
  simp only
  rw [h]
  rfl

theorem leftLoop_step {t t' : Tree α} {m w x r : Text} {op : String} {v : α}
    (hm : symbol.Takes m (w ++ (x ++ r)) op) (hne : m ≠ []) (hw : operand.Takes w (x ++ r) v)
    (h : Takes (leftLoop symbol operand (.node op t (.leaf v))) x r t') :
    Takes (leftLoop symbol operand t) (m ++ (w ++ x)) r t' := by
  intro past
  have hlt := length_lt_append_append hne w (x ++ r)
  have hs : m ++ (w ++ x) ++ r = m ++ (w ++ (x ++ r)) := by simp
  rw [leftLoop, hs, hm past]
  simp only
  rw [hw]
  simp only
  rw [if_pos hlt, h]
  simp

theorem rightOperators_refuses {s : Text} (h : operand.Refuses s) :
    Refuses (rightOperators symbol operand) s := by
  intro past
  rw [rightOperators, h past]

theorem rightOperators_stop {w r : Text} {v : α} (hw : operand.Takes w r v)
    (h : symbol.Refuses r) : Takes (rightOperators symbol operand) w r (.leaf v) := by
  intro past
  rw [rightOperators, hw past]
  simp only
  rw [h]

/-- A symbol that no operand follows is left where it is. -/
theorem rightOperators_dangling {w m r : Text} {v : α} {op : String}
    (hw : operand.Takes w (m ++ r) v) (hm : symbol.Takes m r op) (hne : m ≠ [])
    (h : Refuses (rightOperators symbol operand) r) :
    Takes (rightOperators symbol operand) w (m ++ r) (.leaf v) := by
  intro past
  have hlt : r.length < (w ++ (m ++ r)).length :=
    Nat.lt_of_lt_of_le (length_lt_of_ne_nil hne r) (by simp)
  rw [rightOperators, hw past]
  simp only
  rw [hm]
  simp only
  rw [if_pos hlt, h]

theorem rightOperators_step {w m x r : Text} {v : α} {op : String} {t : Tree α}
    (hw : operand.Takes w (m ++ (x ++ r)) v) (hm : symbol.Takes m (x ++ r) op) (hne : m ≠ [])
    (h : Takes (rightOperators symbol operand) x r t) :
    Takes (rightOperators symbol operand) (w ++ (m ++ x)) r (.node op (.leaf v) t) := by
  intro past
  have hlt : (x ++ r).length < (w ++ (m ++ (x ++ r))).length :=
    Nat.lt_of_lt_of_le (length_lt_of_ne_nil hne (x ++ r)) (by simp)
  have hs : w ++ (m ++ x) ++ r = w ++ (m ++ (x ++ r)) := by simp
  rw [rightOperators, hs, hw past]
  simp only
  rw [hm]
  simp only
  rw [if_pos hlt, h]
  simp

/-! ## What is read is a chain -/

/-- **The loop never fails**, and what holds of the text read before it and of the tree made of that
text goes on to hold, if one more symbol and operand preserve it. -/
theorem leftLoop_reads {I : Text → Tree α → Prop}
    (hsymbol : symbol.Reads fun m op => m ≠ [] ∧ Sym m op) (hoperand : operand.Reads L)
    (hstep : ∀ {l m w t op v}, I l t → Sym m op → L w v →
      I (l ++ (m ++ w)) (.node op t (.leaf v)))
    (s : Text) : ∀ {l : Text} {t : Tree α}, I l t →
      ∃ x r t', s = x ++ r ∧ Takes (leftLoop symbol operand t) x r t' ∧ I (l ++ x) t' := by
  -- each round leaves a shorter text
  induction hn : s.length using Nat.strongRecOn generalizing s with
  | ind n ih =>
    intro l t hl
    rcases hsymbol s with ⟨m, r, op, rfl, hm, hne, hSym⟩ | hr
    · rcases hoperand r with ⟨w, r, v, rfl, hw, hL⟩ | hr
      · have hlt : r.length < n := hn ▸ length_lt_append_append hne w r
        obtain ⟨x, r', t', rfl, ht, hI⟩ := ih r.length hlt r rfl (hstep hl hSym hL)
        refine ⟨m ++ (w ++ x), r', t', by simp, leftLoop_step hm hne hw ht, ?_⟩
        simpa using hI
      · exact ⟨[], m ++ r, t, rfl, leftLoop_dangling hm hr, by simpa using hl⟩
    · exact ⟨[], s, t, rfl, leftLoop_stop hr, by simpa using hl⟩

theorem leftOperators_takes_append {w x r : Text} {v : α} {t : Tree α}
    (hw : operand.Takes w (x ++ r) v) (h : Takes (leftLoop symbol operand (.leaf v)) x r t) :
    (leftOperators symbol operand).Takes (w ++ x) r t := by
  intro past
  rw [leftOperators, List.append_assoc, hw past]
  simp only
  rw [h]
  simp

theorem leftOperators_refuses {s : Text} (h : operand.Refuses s) :
    (leftOperators symbol operand).Refuses s := by
  intro past
  rw [leftOperators, h past]

/-- **Grouping to the left reads left chains.** -/
theorem leftOperators_reads (hsymbol : symbol.Reads fun m op => m ≠ [] ∧ Sym m op)
    (hoperand : operand.Reads L) : (leftOperators symbol operand).Reads (LeftChain Sym L) := by
  intro s
  rcases hoperand s with ⟨w, r, v, rfl, hw, hL⟩ | hr
  · obtain ⟨x, r', t, rfl, ht, hchain⟩ :=
      leftLoop_reads hsymbol hoperand LeftChain.step r (LeftChain.operand hL)
    exact .inl ⟨w ++ x, r', t, by simp, leftOperators_takes_append hw ht, hchain⟩
  · exact .inr (leftOperators_refuses hr)

/-- **Grouping to the right reads right chains.** -/
theorem rightOperators_reads (hsymbol : symbol.Reads fun m op => m ≠ [] ∧ Sym m op)
    (hoperand : operand.Reads L) :
    Reads (rightOperators symbol operand) (RightChain Sym L) := by
  intro s
  induction hn : s.length using Nat.strongRecOn generalizing s with
  | ind n ih =>
    rcases hoperand s with ⟨w, r, v, rfl, hw, hL⟩ | hr
    · left
      rcases hsymbol r with ⟨m, r, op, rfl, hm, hne, hSym⟩ | hr
      · have hlt : r.length < n :=
          hn ▸ Nat.lt_of_lt_of_le (length_lt_of_ne_nil hne r) (by simp)
        rcases ih r.length hlt r rfl with ⟨x, r', t, rfl, ht, hchain⟩ | hr
        · exact ⟨w ++ (m ++ x), r', _, by simp, rightOperators_step hw hm hne ht,
            hchain.step hL hSym⟩
        · exact ⟨w, m ++ r, _, rfl, rightOperators_dangling hw hm hne hr, .operand hL⟩
      · exact ⟨w, r, _, rfl, rightOperators_stop hw hr, .operand hL⟩
    · exact .inr (rightOperators_refuses hr)

end Parser

/-! ## A chain is read as the chain it is -/

/-- Operands of the language `L` and symbols can be told apart, where `Stop` says of a text that it
does not continue an operand. -/
structure Legible (symbol : Parser String) (operand : Parser α) (Sym : Text → String → Prop)
    (L : Text → α → Prop) (Stop : Text → Prop) : Prop where
  /-- Symbols are not empty. -/
  symbol_ne_nil : ∀ {m op}, Sym m op → m ≠ []
  /-- A symbol is taken as a whole if an operand follows. -/
  symbol_takes : ∀ {m op w v} (r), Sym m op → L w v → symbol.Takes m (w ++ r) op
  /-- Reading a symbol ends, and takes something if it succeeds. -/
  symbol_reads : symbol.Reads fun m _ => m ≠ []
  /-- An operand is taken as a whole if nothing continues it. -/
  operand_takes : ∀ {w v r}, L w v → Stop r → operand.Takes w r v
  /-- No operand at the beginning of a text is longer than what is taken. -/
  operand_takesAtLeast : ∀ {w v} (r), L w v → operand.TakesAtLeast w r
  /-- Reading an operand ends. -/
  operand_reads : operand.Reads fun _ _ => True
  /-- A symbol with an operand behind it does not continue the operand in front of it. -/
  stop : ∀ {m op w v} (r), Sym m op → L w v → Stop (m ++ (w ++ r))

namespace Legible

open Backtrack.Parser

/-- **Reading a left chain arrives in the loop.**  The chain has been read and the tree has been
made of it, and it remains to be seen whether the chain goes on. -/
theorem leftOperators_eq (h : Legible symbol operand Sym L Stop) {l r : Text} {t : Tree α}
    (hl : LeftChain Sym L l t) (hr : Stop r) (past : Text) :
    leftOperators symbol operand ⟨past, l ++ r⟩ =
      leftLoop symbol operand t ⟨l.reverse ++ past, r⟩ := by
  induction hl generalizing r with
  | operand hw => rw [leftOperators, h.operand_takes hw hr past]
  | @step l m w t op v _ hm hw ih =>
    have hlt := length_lt_append_append (h.symbol_ne_nil hm) w r
    have hs : l ++ (m ++ w) ++ r = l ++ (m ++ (w ++ r)) := by simp
    rw [hs, ih (h.stop r hm hw), leftLoop, h.symbol_takes r hm hw]
    simp only
    rw [h.operand_takes hw hr]
    simp only
    rw [if_pos hlt]
    simp

theorem leftOperators_takes (h : Legible symbol operand Sym L Stop) {l r : Text} {t : Tree α}
    (hl : LeftChain Sym L l t) (hr : Stop r) (hend : symbol.Refuses r) :
    (leftOperators symbol operand).Takes l r t := by
  intro past
  rw [h.leftOperators_eq hl hr, show r = [] ++ r from rfl, leftLoop_stop hend]
  rfl

/-- The loop never fails, wherever it stands and whatever was read before. -/
theorem leftLoop_takes (h : Legible symbol operand Sym L Stop) (t : Tree α) (s : Text) :
    ∃ x r t', s = x ++ r ∧ Takes (leftLoop symbol operand t) x r t' := by
  have hsymbol : symbol.Reads fun m _ => m ≠ [] ∧ True :=
    h.symbol_reads.mono fun _ _ hm => ⟨hm, trivial⟩
  obtain ⟨x, r, t', hs, ht, -⟩ := leftLoop_reads (I := fun _ _ => True) (l := []) (t := t)
    hsymbol h.operand_reads (fun _ _ _ => trivial) s trivial
  exact ⟨x, r, t', hs, ht⟩

theorem leftOperators_takesAtLeast (h : Legible symbol operand Sym L Stop) {l : Text} {t : Tree α}
    (hl : LeftChain Sym L l t) (r : Text) : (leftOperators symbol operand).TakesAtLeast l r := by
  cases hl with
  | operand hw =>
    obtain ⟨x, r', v, rfl, hx⟩ := h.operand_takesAtLeast r hw
    obtain ⟨y, r'', t, rfl, hy⟩ := h.leftLoop_takes (.leaf v) r'
    exact ⟨x ++ y, r'', t, by simp, by simpa using leftOperators_takes_append hx hy⟩
  | @step l m w t op _ hl hm hw =>
    obtain ⟨x, r', v, rfl, hx⟩ := h.operand_takesAtLeast r hw
    obtain ⟨y, r'', t', rfl, hy⟩ := h.leftLoop_takes (.node op t (.leaf v)) r'
    have hsymbol := h.symbol_takes (x ++ (y ++ r'')) hm hw
    rw [← List.append_assoc] at hsymbol
    have hloop := leftLoop_step hsymbol (h.symbol_ne_nil hm) hx hy
    refine ⟨x ++ y, r'', t', by simp, fun past => ?_⟩
    have hs : l ++ (m ++ w) ++ (x ++ y) ++ r'' = l ++ (m ++ (w ++ (x ++ (y ++ r'')))) := by simp
    have hs' : m ++ (w ++ (x ++ (y ++ r''))) = m ++ ((w ++ x) ++ y) ++ r'' := by simp
    rw [hs, h.leftOperators_eq hl (h.stop _ hm hw), hs', hloop]
    simp

theorem rightOperators_takes (h : Legible symbol operand Sym L Stop) {l r : Text} {t : Tree α}
    (hl : RightChain Sym L l t) (hr : Stop r) (hend : symbol.Refuses r) :
    Takes (rightOperators symbol operand) l r t := by
  induction hl with
  | operand hw => exact rightOperators_stop (h.operand_takes hw hr) hend
  | @step w m l v op t hw hm hl ih =>
    obtain ⟨w', v', l', rfl, hw'⟩ := hl.exists_operand
    have hstop := h.stop (l' ++ r) hm hw'
    have hsymbol := h.symbol_takes (l' ++ r) hm hw'
    have hs : w' ++ (l' ++ r) = w' ++ l' ++ r := by simp
    rw [hs] at hstop hsymbol
    exact rightOperators_step (h.operand_takes hw hstop) hsymbol (h.symbol_ne_nil hm) ih

theorem rightOperators_takesAtLeast (h : Legible symbol operand Sym L Stop) {l : Text} {t : Tree α}
    (hl : RightChain Sym L l t) (r : Text) :
    TakesAtLeast (rightOperators symbol operand) l r := by
  induction hl with
  | operand hw =>
    obtain ⟨x, r', v, rfl, hx⟩ := h.operand_takesAtLeast r hw
    rcases h.symbol_reads r' with ⟨m, r', op, rfl, hm, hne⟩ | hr
    · have hsymbol : symbol.Reads fun m _ => m ≠ [] ∧ True :=
        h.symbol_reads.mono fun _ _ hm => ⟨hm, trivial⟩
      rcases rightOperators_reads hsymbol h.operand_reads r' with ⟨y, r'', t, rfl, hy, -⟩ | hr
      · exact ⟨x ++ (m ++ y), r'', _, by simp, by simpa using rightOperators_step hx hm hne hy⟩
      · exact ⟨x, m ++ r', _, rfl, rightOperators_dangling hx hm hne hr⟩
    · exact ⟨x, r', _, rfl, rightOperators_stop hx hr⟩
  | @step w m l v op t hw hm hl ih =>
    obtain ⟨x, r', t', rfl, ht⟩ := ih
    obtain ⟨w', v', l', rfl, hw'⟩ := hl.exists_operand
    have hstop := h.stop (l' ++ (x ++ r')) hm hw'
    have hsymbol := h.symbol_takes (l' ++ (x ++ r')) hm hw'
    have hs : w' ++ (l' ++ (x ++ r')) = w' ++ l' ++ x ++ r' := by simp
    rw [hs] at hstop hsymbol
    have htakes := rightOperators_step (h.operand_takes hw hstop) hsymbol (h.symbol_ne_nil hm) ht
    exact ⟨x, r', _, rfl, by simpa using htakes⟩

end Legible

end Backtrack
