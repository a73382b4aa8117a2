import Backtrack.Proofs.Operator.Symbol
import Backtrack.Proofs.Repetition

/-!
# One chain, grouped in different ways

Grouping to the left hangs every new operand over the tree read so far, in a loop; grouping to the
right reads the rest of the chain first, by recursion, and falls back where that fails; a list with
separators keeps no tree at all.  They are written apart from each other, and yet all of them read
the same chain: an operand, and then as many pairs of a symbol and an operand as there are.

`chain` is the parser of that, and the other three are `chain` with a function applied to what it
yields (`leftOperators_eq_map`, `rightOperators_eq_map`, `separatedBy1_eq_map`).  For two of them
this holds of any parsers of symbols and operands.  Grouping to the right looks for progress at
another point of the round, so it needs that a symbol is never empty and that an operand never goes
back.

* `Tree.hang`, `Tree.groupLeft`, `Tree.groupRight` — the trees that are made of a chain;
* `operators_group_chain` — the three readings of a chain by a level of operators.
-/

set_option autoImplicit false

namespace Backtrack

/-! ## The trees of a chain -/

namespace Tree

variable {α : Type}

/-- Hang operands with the operators in front of them over a tree, one after another. -/
def hang (t : Tree α) (pairs : List (String × α)) : Tree α :=
  pairs.foldl (fun t (op, v) => .node op t (.leaf v)) t

/-- A chain grouped to the left. -/
def groupLeft (first : α) (pairs : List (String × α)) : Tree α := hang (.leaf first) pairs

/-- A chain grouped to the right. -/
def groupRight (first : α) : List (String × α) → Tree α
  | [] => .leaf first
  | (op, v) :: pairs => .node op (.leaf first) (groupRight v pairs)

/-- Every right child is a leaf. -/
def LeansLeft : Tree α → Prop
  | leaf _ => True
  | node _ l r => l.LeansLeft ∧ ∃ v, r = .leaf v

/-- Every left child is a leaf. -/
def LeansRight : Tree α → Prop
  | leaf _ => True
  | node _ l r => (∃ v, l = .leaf v) ∧ r.LeansRight

@[simp] theorem hang_nil (t : Tree α) : t.hang [] = t := rfl

@[simp] theorem hang_cons (t : Tree α) (op : String) (v : α) (pairs : List (String × α)) :
    t.hang ((op, v) :: pairs) = (node op t (.leaf v)).hang pairs := rfl

theorem LeansLeft.hang {t : Tree α} (h : t.LeansLeft) (pairs : List (String × α)) :
    (t.hang pairs).LeansLeft := by
  induction pairs generalizing t with
  | nil => exact h
  | cons q pairs ih => exact ih ⟨h, q.2, rfl⟩

theorem operatorCount_hang (t : Tree α) (pairs : List (String × α)) :
    (t.hang pairs).operatorCount = t.operatorCount + pairs.length := by
  induction pairs generalizing t with
  | nil => rfl
  | cons q pairs ih =>
    have hnode : (node q.1 t (.leaf q.2)).operatorCount = t.operatorCount + 1 := rfl
    rw [hang_cons, ih, hnode, List.length_cons]
    omega

theorem leansLeft_groupLeft (first : α) (pairs : List (String × α)) :
    (groupLeft first pairs).LeansLeft :=
  LeansLeft.hang (t := .leaf first) trivial pairs

theorem operatorCount_groupLeft (first : α) (pairs : List (String × α)) :
    (groupLeft first pairs).operatorCount = pairs.length := by
  rw [groupLeft, operatorCount_hang]
  exact Nat.zero_add _

theorem leansRight_groupRight (first : α) (pairs : List (String × α)) :
    (groupRight first pairs).LeansRight := by
  induction pairs generalizing first with
  | nil => trivial
  | cons q pairs ih => exact ⟨⟨first, rfl⟩, ih q.2⟩

theorem operatorCount_groupRight (first : α) (pairs : List (String × α)) :
    (groupRight first pairs).operatorCount = pairs.length := by
  induction pairs generalizing first with
  | nil => rfl
  | cons q pairs ih =>
    have hnode : (node q.1 (.leaf first) (groupRight q.2 pairs)).operatorCount =
        0 + (groupRight q.2 pairs).operatorCount + 1 := rfl
    rw [groupRight, hnode, ih, List.length_cons]
    omega

end Tree

namespace Parser

open Cursor Backtrack.Tree

variable {α β : Type} {symbol : Parser String} {operand : Parser α} {c : Cursor}

/-! ## The chain -/

theorem pair_apply (p : Parser α) (q : Parser β) (c : Cursor) :
    pair p q c = match p c with
      | .ok a d =>
        match q d with
        | .ok b d' => .ok (a, b) d'
        | .error e => .error e
        | .diverge => .diverge
      | .error e => .error e
      | .diverge => .diverge := rfl

theorem pair_eq_ok {p : Parser α} {q : Parser β} {c' : Cursor} {u : α × β}
    (h : pair p q c = .ok u c') : ∃ d, p c = .ok u.1 d ∧ q d = .ok u.2 c' := by
  obtain ⟨a, d, ha, h⟩ := bind_eq_ok h
  obtain ⟨b, d', hb, h⟩ := bind_eq_ok h
  cases h
  exact ⟨d, ha, hb⟩

theorem pair_eq_diverge {p : Parser α} {q : Parser β} (h : pair p q c = .diverge) :
    p c = .diverge ∨ ∃ a d, p c = .ok a d ∧ q d = .diverge := by
  rw [pair_apply] at h
  split at h
  · split at h
    · cases h
    · cases h
    · exact .inr ⟨_, _, ‹_›, ‹_›⟩
  · cases h
  · exact .inl ‹_›

/-- One round of reading pairs: where no operand follows, the symbol in front of it is not read
either. -/
theorem many_pair (p : Parser α) (q : Parser β) (c : Cursor) :
    many (pair p q) c = match p c with
      | .ok a d =>
        match q d with
        | .ok b d' =>
          if d'.rest.length < c.rest.length then (many (pair p q) d').map ((a, b) :: ·)
          else .diverge
        | .error _ => .ok [] c
        | .diverge => .diverge
      | .error _ => .ok [] c
      | .diverge => .diverge := by
  rw [many, pair_apply]
  cases p c with
  | ok a d =>
    simp only
    cases q d <;> rfl
  | error e => rfl
  | diverge => rfl

/-- Read an operand, and then as many pairs of a symbol and an operand as there are. -/
def chain (symbol : Parser String) (operand : Parser α) : Parser (α × List (String × α)) := fun c =>
  match operand c with
  | .ok v d => (many (pair symbol operand) d).map (v, ·)
  | .error e => .error e
  | .diverge => .diverge

/-- **The loop that groups to the left reads pairs and hangs them over the tree.** -/
theorem leftLoop_eq_map_many (symbol : Parser String) (operand : Parser α) (t : Tree α)
    (c : Cursor) :
    leftLoop symbol operand t c = (many (pair symbol operand) c).map t.hang := by
  fun_induction leftLoop symbol operand t c with
  | case1 t c op d hop v d' hv hlt ih =>
    rw [ih, many_pair symbol operand c, hop]
    simp only [hv, if_pos hlt]
    cases many (pair symbol operand) d' <;> rfl
  | case2 t c op d hop v d' hv hlt =>
    rw [many_pair, hop]
    simp only [hv, if_neg hlt, Outcome.map]
  | case3 t c op d hop e hv =>
    rw [many_pair, hop]
    simp only [hv, Outcome.map, hang_nil]
  | case4 t c op d hop hv =>
    rw [many_pair, hop]
    simp only [hv, Outcome.map]
  | case5 t c e hop =>
    rw [many_pair, hop]
    simp only [Outcome.map, hang_nil]
  | case6 t c hop =>
    rw [many_pair, hop]
    simp only [Outcome.map]

/-- **The items behind the first one are read as pairs** of which the separator is dropped. -/
theorem separatedTail_eq_map_many (operand : Parser α) (symbol : Parser β) (c : Cursor) :
    separatedTail operand symbol c =
      (many (pair symbol operand) c).map fun pairs => pairs.map Prod.snd := by
  fun_induction separatedTail operand symbol c with
  | case1 c op d hop v d' hv hlt ih =>
    rw [ih, many_pair symbol operand c, hop]
    simp only [hv, if_pos hlt]
    cases many (pair symbol operand) d' <;> rfl
  | case2 c op d hop v d' hv hlt =>
    rw [many_pair, hop]
    simp only [hv, if_neg hlt, Outcome.map]
  | case3 c op d hop e hv =>
    rw [many_pair, hop]
    simp only [hv, Outcome.map, List.map_nil]
  | case4 c op d hop hv =>
    rw [many_pair, hop]
    simp only [hv, Outcome.map]
  | case5 c e hop =>
    rw [many_pair, hop]
    simp only [Outcome.map, List.map_nil]
  | case6 c hop =>
    rw [many_pair, hop]
    simp only [Outcome.map]

/-! ## Three readings of a chain -/

theorem leftOperators_eq_map (symbol : Parser String) (operand : Parser α) :
    leftOperators symbol operand =
      Parser.map (fun q => groupLeft q.1 q.2) (chain symbol operand) := by
  funext c
  rw [leftOperators, Parser.map, chain]
  cases operand c with
  | ok v d =>
    simp only
    rw [leftLoop_eq_map_many]
    cases many (pair symbol operand) d <;> rfl
  | error e => rfl
  | diverge => rfl

theorem separatedBy1_eq_map (symbol : Parser String) (operand : Parser α) :
    separatedBy1 operand symbol =
      Parser.map (fun q => q.1 :: q.2.map Prod.snd) (chain symbol operand) := by
  funext c
  rw [separatedBy1, Parser.map, chain]
  cases operand c with
  | ok v d =>
    simp only
    rw [separatedTail_eq_map_many]
    cases many (pair symbol operand) d <;> rfl
  | error e => rfl
  | diverge => rfl

/-- **Grouping to the right reads the same chain**, if every symbol shortens the unread text and no
operand lengthens it. -/
theorem rightOperators_eq_map
    (hsymbol : ∀ {c d : Cursor} {op : String}, symbol c = .ok op d →
      d.rest.length < c.rest.length)
    (hoperand : ∀ {c d : Cursor} {v : α}, operand c = .ok v d → d.rest.length ≤ c.rest.length) :
    rightOperators symbol operand =
      Parser.map (fun q => groupRight q.1 q.2) (chain symbol operand) := by
  funext c
  -- behind a symbol there is less to read, and there the rest of the chain is read by recursion
  induction hn : c.rest.length using Nat.strongRecOn generalizing c with
  | ind n ih =>
    rw [rightOperators, Parser.map, chain]
    cases hv : operand c with
    | ok v d =>
      have hle := hoperand hv
      simp only
      rw [many_pair]
      cases hop : symbol d with
      | ok op d' =>
        have hlt := hsymbol hop
        simp only
        rw [if_pos (by omega), ih d'.rest.length (by omega) d' rfl, Parser.map, chain]
        cases hu : operand d' with
        | ok u d'' =>
          have hle' := hoperand hu
          simp only
          rw [if_pos (by omega)]
          cases hmany : many (pair symbol operand) d'' with
          | ok pairs c' => rfl
          | error e => exact absurd hmany (many_ne_error _ _ _)
          | diverge => rfl
        | error e => rfl
        | diverge => rfl
      | error e => rfl
      | diverge => rfl
    | error e => rfl
    | diverge => rfl

/-! ## How a chain ends -/

theorem chain_eq_error {e : ParseError} (h : chain symbol operand c = .error e) :
    operand c = .error e := by
  rw [chain] at h
  cases hv : operand c with
  | ok v d =>
    simp only [hv] at h
    cases hmany : many (pair symbol operand) d with
    | ok pairs d' => simp [hmany, Outcome.map] at h
    | error e' => exact absurd hmany (many_ne_error _ _ _)
    | diverge => simp [hmany, Outcome.map] at h
  | error e' => simpa [hv] using h
  | diverge => simp [hv] at h

theorem chain_eq_ok {v : α} {pairs : List (String × α)} {c' : Cursor}
    (h : chain symbol operand c = .ok (v, pairs) c') :
    ∃ d, operand c = .ok v d ∧ many (pair symbol operand) d = .ok pairs c' := by
  rw [chain] at h
  split at h
  · obtain ⟨pairs', hmany, heq⟩ := Outcome.map_eq_ok h
    cases heq
    exact ⟨_, ‹_›, hmany⟩
  · cases h
  · cases h

/-- **A symbol that no operand follows is not read**, and neither is the gap in front of it. -/
theorem chain_stops {v : α} {pairs : List (String × α)} {c' d : Cursor} {op : String}
    (h : chain symbol operand c = .ok (v, pairs) c') (hop : symbol c' = .ok op d) :
    ∃ e, operand d = .error e := by
  obtain ⟨d', -, hmany⟩ := chain_eq_ok h
  obtain ⟨e, he⟩ := many_stops hmany
  rw [pair_apply, hop] at he
  cases hd : operand d with
  | ok u d'' => simp [hd] at he
  | error e' => exact ⟨e', rfl⟩
  | diverge => simp [hd] at he

/-- **Where a chain diverges, an operand does**, at a place that has been reached. -/
theorem chain_eq_diverge (hforward : symbol.Forward) (hoperand : operand.Forward)
    (hsymbol : ∀ {c d : Cursor} {op : String}, symbol c = .ok op d →
      d.rest.length < c.rest.length)
    (hreturns : ∀ d, symbol d ≠ .diverge) (h : chain symbol operand c = .diverge) :
    ∃ d, c.Reaches d ∧ operand d = .diverge := by
  rw [chain] at h
  cases hv : operand c with
  | ok v d =>
    have hmany : many (pair symbol operand) d = .diverge := by
      simp only [hv] at h
      cases hmany : many (pair symbol operand) d with
      | ok pairs d' => simp [hmany, Outcome.map] at h
      | error e => simp [hmany, Outcome.map] at h
      | diverge => rfl
    have hpair : (pair symbol operand).Forward := by
      intro c c' q hq
      obtain ⟨d, hop, hu⟩ := pair_eq_ok hq
      exact (hforward hop).trans (hoperand hu)
    obtain ⟨d', hreach, hblame⟩ := many_eq_diverge hpair hmany
    have hcd' := (hoperand hv).trans hreach
    rcases hblame with hdiverge | ⟨q, d'', hok, hstuck⟩
    · rcases pair_eq_diverge hdiverge with hop | ⟨op, d'', hop, hu⟩
      · exact absurd hop (hreturns d')
      · exact ⟨d'', hcd'.trans (hforward hop), hu⟩
    · -- a pair that was read left less to read, since its symbol did
      obtain ⟨c', hop, hu⟩ := pair_eq_ok hok
      have hlt := hsymbol hop
      have hle := (hoperand hu).length_le
      omega
  | error e => simp [hv] at h
  | diverge => exact ⟨c, .refl c, hv⟩

/-! ## Levels of operators -/

theorem firstSymbol_length_lt {symbols : List String} {guardChars : Text}
    (hsymbols : ∀ s ∈ symbols, s ≠ "") {c d : Cursor} {op : String}
    (h : firstSymbol symbols guardChars c = .ok op d) : d.rest.length < c.rest.length := by
  obtain ⟨m, hrest, -, a, b, rfl, -, hop, -⟩ := (firstSymbol_reads symbols).of_eq_ok h
  have hne : op.toList ≠ [] := fun hnil => hsymbols op hop (String.toList_inj.1 hnil)
  have hpos := List.length_pos_iff.2 hne
  rw [hrest]
  simp only [List.length_append]
  omega

/-- **Left, right and no grouping read the same chain.**  With symbols that are not empty and an
operand that stays in its text and does not go back, a level of operators grouped to the left, the
same level grouped to the right and a list with the same symbols for separators

* all fail with the error of the first operand, or
* all succeed at the same place, with the two trees and the list that are made of one chain, and a
  symbol that stands at this place is followed by no operand, or
* all diverge, because the operand does so at a place that has been reached.  A parser that always
  returns leaves only the first two. -/
theorem operators_group_chain {symbols : List String} (hsymbols : ∀ s ∈ symbols, s ≠ "")
    (guardChars : Text) {operand : Parser α}
    (hoperand : ∀ {c c' : Cursor} {v : α}, operand c = .ok v c' →
      c'.source = c.source ∧ c.position ≤ c'.position) (c : Cursor) :
    let symbol := operatorSymbol symbols guardChars
    let grouped := fun assoc =>
      ((Operators.level symbols assoc).withGuard guardChars).parser operand c
    let listed := separatedBy1 operand symbol c
    (∃ e, operand c = .error e ∧
      grouped .left = .error e ∧ grouped .right = .error e ∧ listed = .error e) ∨
    (∃ v pairs c', chain symbol operand c = .ok (v, pairs) c' ∧
      grouped .left = .ok (groupLeft v pairs) c' ∧ (groupLeft v pairs).LeansLeft ∧
      grouped .right = .ok (groupRight v pairs) c' ∧ (groupRight v pairs).LeansRight ∧
      listed = .ok (v :: pairs.map Prod.snd) c' ∧
      (groupLeft v pairs).operatorCount = pairs.length ∧
      (groupRight v pairs).operatorCount = pairs.length ∧
      ∀ op d, symbol c' = .ok op d → ∃ e, operand d = .error e) ∨
    ∃ d, c.Reaches d ∧ operand d = .diverge ∧
      grouped .left = .diverge ∧ grouped .right = .diverge ∧ listed = .diverge := by
  intro symbol grouped listed
  have hforward : operand.Forward := by
    intro c c' v h
    exact reaches_of_position_le (hoperand h).1 (hoperand h).2
  have hsymbol : ∀ {c d : Cursor} {op : String}, symbol c = .ok op d →
      d.rest.length < c.rest.length :=
    fun h => firstSymbol_length_lt (fun s hs => hsymbols s (Operators.mem_tryOrder.1 hs)) h
  have hleft : grouped .left = (chain symbol operand c).map fun q => groupLeft q.1 q.2 :=
    congrFun (leftOperators_eq_map symbol operand) c
  have hright : grouped .right = (chain symbol operand c).map fun q => groupRight q.1 q.2 :=
    congrFun (rightOperators_eq_map hsymbol fun h => (hforward h).length_le) c
  have hlisted : listed = (chain symbol operand c).map fun q => q.1 :: q.2.map Prod.snd :=
    congrFun (separatedBy1_eq_map symbol operand) c
  cases hchain : chain symbol operand c with
  | ok q c' =>
    obtain ⟨v, pairs⟩ := q
    rw [hchain] at hleft hright hlisted
    exact .inr (.inl ⟨v, pairs, c', rfl, hleft, leansLeft_groupLeft v pairs, hright,
      leansRight_groupRight v pairs, hlisted, operatorCount_groupLeft v pairs,
      operatorCount_groupRight v pairs, fun op d hop => chain_stops hchain hop⟩)
  | error e =>
    rw [hchain] at hleft hright hlisted
    exact .inl ⟨e, chain_eq_error hchain, hleft, hright, hlisted⟩
  | diverge =>
    rw [hchain] at hleft hright hlisted
    have hcomposed : Composed (fun _ => True) symbol := .operatorSymbol symbols guardChars
    obtain ⟨d, hreach, hd⟩ := chain_eq_diverge hcomposed.forward hforward hsymbol
      (firstSymbol_reads _).ne_diverge hchain
    exact .inr (.inr ⟨d, hreach, hd, hleft, hright, hlisted⟩)

/-- A chain of numbers with a symbol behind it that no number follows: both trees are made of the
same operands, and the symbol is left with the blank in front of it. -/
theorem operators_group_chain_dangling :
    (∀ s ∈ ["+", "-"], s ≠ "") ∧
    (∀ {c c' : Cursor} {v : Nat}, posint c = .ok v c' →
      c'.source = c.source ∧ c.position ≤ c'.position) ∧
    ∃ c', c'.rest = " +".toList ∧
      ((Operators.level ["+", "-"] .left).withGuard []).parser posint
          (.start "1 + 2-3 +".toList) = .ok (groupLeft 1 [("+", 2), ("-", 3)]) c' ∧
      ((Operators.level ["+", "-"] .right).withGuard []).parser posint
          (.start "1 + 2-3 +".toList) = .ok (groupRight 1 [("+", 2), ("-", 3)]) c' ∧
      separatedBy1 posint (operatorSymbol ["+", "-"] []) (.start "1 + 2-3 +".toList) =
        .ok [1, 2, 3] c' := by
  have hsymbols : ∀ s ∈ ["+", "-"], s ≠ "" := by decide
  have hoperand : ∀ {c c' : Cursor} {v : Nat}, posint c = .ok v c' →
      c'.source = c.source ∧ c.position ≤ c'.position := by
    intro c c' v h
    have hcomposed : Composed (fun _ => True) posint := .posint
    exact ⟨(hcomposed.forward h).ahead.source_eq, (hcomposed.forward h).ahead.position_le⟩
  have hchain : chain (operatorSymbol ["+", "-"] []) posint (.start "1 + 2-3 +".toList) =
      .ok (1, [("+", 2), ("-", 3)]) ⟨"3-2 + 1".toList, " +".toList⟩ := by
    rw [operatorSymbol, Operators.tryOrder_of_descending (by decide)]
    cbv
  have hl : ((Operators.level ["+", "-"] .left).withGuard []).parser posint
      (.start "1 + 2-3 +".toList) =
      .ok (groupLeft 1 [("+", 2), ("-", 3)]) ⟨"3-2 + 1".toList, " +".toList⟩ := by
    have hmap := congrFun (leftOperators_eq_map (operatorSymbol ["+", "-"] []) posint)
      (.start "1 + 2-3 +".toList)
    rw [Parser.map, hchain] at hmap
    exact hmap
  refine ⟨hsymbols, hoperand, ⟨"3-2 + 1".toList, " +".toList⟩, rfl, ?_⟩
  rcases operators_group_chain hsymbols [] hoperand (.start "1 + 2-3 +".toList) with
    ⟨e, -, hleft, -⟩ | ⟨v, pairs, c', hok, hleft, -, hright, -, hlisted, -⟩ | ⟨d, -, -, hleft, -⟩
  · exact absurd (hl.symm.trans hleft) (by simp)
  · cases hchain.symm.trans hok
    exact ⟨hleft, hright, hlisted⟩
  · exact absurd (hl.symm.trans hleft) (by simp)

end Parser

end Backtrack
