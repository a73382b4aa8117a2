import Backtrack.Proofs.Arithmetic.Derivation

/-!
# Recognising arithmetic expressions

The parser of arithmetic expressions is greedy and never goes back into what it has read, while the
grammar of `Derives` is free to cut a text wherever a derivation can be found.  That the two agree
rests on three things:

* what is read is an expression (`level_reads`), since each level reads chains of the next tighter
  one;
* the symbols of different levels can be told apart where an operand follows (`Apart`): `*` is
  found neither at the beginning of `**` nor in front of a point;
* an expression ends where nothing continues it (`Stops`), and an operator of a looser level, a
  closing bracket and the end of the text do not.

The last two make every level legible in the sense of `Legible`, so an expression in front of what
does not continue it is taken as a whole, and in front of anything else it is taken at least as a
whole (`Recognises`).  The rest is an induction on the number of opening brackets, at which the
grammar refers to itself.  The result is `run_expr`.
-/

set_option autoImplicit false

namespace Backtrack

namespace Arithmetic

open Numeral Backtrack.Parser

/-! ## Telling symbols apart -/

/-- The characters that can stand directly behind an operator: a gap or the next operand begins. -/
def followChars : Text := whiteChars ++ startChars

theorem exists_followChar {b : Text} (hb : IsGap b) {k : Rank} {w : Text} {t : Tree Float}
    (hw : Derives k w t) (r : Text) : ∃ x y, b ++ (w ++ r) = x :: y ∧ x ∈ followChars := by
  cases b with
  | nil =>
    obtain ⟨x, w', rfl, hx⟩ := hw.exists_cons
    exact ⟨x, w' ++ r, rfl, List.mem_append_right _ hx⟩
  | cons x b =>
    have hx : isWhite x = true := hb x (by simp)
    exact ⟨x, b ++ (w ++ r), rfl, List.mem_append_left _ (by simpa [isWhite] using hx)⟩

/-- The symbol `s` is not found where `op` is written with a gap or an operand behind it. -/
def Apart (s op : String) : Prop :=
  s.toList.length ≤ op.toList.length + 1 ∧
    ∀ x ∈ followChars, ¬ s.toList <+: op.toList ++ [x]

instance (s op : String) : Decidable (Apart s op) :=
  @instDecidableAnd _ _ inferInstance (List.decidableBAll _ followChars)

theorem Apart.not_fits {s op : String} (h : Apart s op) {x : Char} (hx : x ∈ followChars)
    (y : Text) : ¬ Fits guardChars s (op.toList ++ x :: y) := by
  rintro ⟨r, hr, -⟩
  have hs : s.toList <+: op.toList ++ [x] ++ y := ⟨r, by simpa using hr.symm⟩
  refine h.2 x hx (List.prefix_of_prefix_length_le hs (List.prefix_append _ _) ?_)
  simpa using h.1

/-- An operator begins with a character that belongs to no gap, number or bracket. -/
theorem exists_cons_of_mem_operatorSymbols {op : String} (h : op ∈ operatorSymbols) :
    ∃ x s, op.toList = x :: s ∧ isWhite x = false ∧ isDigit x = false ∧ x ≠ '.' ∧ x ≠ ')' := by
  have hall : ∀ op ∈ operatorSymbols, op.toList.head?.any (fun x =>
      decide (isWhite x = false ∧ isDigit x = false ∧ x ≠ '.' ∧ x ≠ ')')) = true := by decide
  obtain ⟨x, hx, hx'⟩ := Option.any_eq_true _ _ |>.1 (hall op h)
  obtain ⟨s, hs⟩ := List.head?_eq_some_iff.1 hx
  exact ⟨x, s, hs, of_decide_eq_true hx'⟩

/-- A level of arithmetic operators that has the given symbols, which can be told apart. -/
structure IsLevel (o : Operators) (symbols : List String) : Prop where
  guardChars_eq : o.guardChars = guardChars
  mem_iff : ∀ s, s ∈ o.symbols ↔ s ∈ symbols
  mem : ∀ s ∈ symbols, s ∈ operatorSymbols
  apart : ∀ s ∈ symbols, ∀ op ∈ symbols, s ≠ op → Apart s op

theorem isLevel_powers : IsLevel powers ["^", "**"] :=
  ⟨rfl, fun _ => Operators.mem_tryOrder, by decide, by decide⟩

theorem isLevel_products : IsLevel products ["*", "/"] :=
  ⟨rfl, fun _ => Operators.mem_tryOrder, by decide, by decide⟩

theorem isLevel_sums : IsLevel sums ["+", "-"] :=
  ⟨rfl, fun _ => Operators.mem_tryOrder, by decide, by decide⟩

namespace IsLevel

variable {o : Operators} {symbols : List String} {k : Rank} {m w : Text} {op : String}
  {t : Tree Float}

theorem ne_nil (ho : IsLevel o symbols) (hm : IsSymbol symbols m op) : m ≠ [] := by
  obtain ⟨a, b, rfl, -, hop, -⟩ := hm
  obtain ⟨x, s, hs, -⟩ := exists_cons_of_mem_operatorSymbols (ho.mem op hop)
  simp [hs]

theorem symbol_reads (ho : IsLevel o symbols) :
    o.symbol.Reads fun m op => m ≠ [] ∧ IsSymbol symbols m op := by
  refine (firstSymbol_reads o.symbols).mono ?_
  rintro m op ⟨a, b, hm, ha, hop, hb⟩
  have hm : IsSymbol symbols m op := ⟨a, b, hm, ha, (ho.mem_iff op).1 hop, hb⟩
  exact ⟨ho.ne_nil hm, hm⟩

/-- **A symbol with an expression behind it is read.** -/
theorem symbol_takes (ho : IsLevel o symbols) (hm : IsSymbol symbols m op) (hw : Derives k w t)
    (r : Text) : o.symbol.Takes m (w ++ r) op := by
  obtain ⟨a, b, rfl, ha, hop, hb⟩ := hm
  obtain ⟨x, s, hs, hx, -⟩ := exists_cons_of_mem_operatorSymbols (ho.mem op hop)
  obtain ⟨y, z, hy, hfollow⟩ := exists_followChar hb hw r
  have hguard : ∀ c ∈ followChars, guardChars.contains c = false :=
    Text.forall_mem_of_all (by decide)
  rw [Operators.symbol, ho.guardChars_eq]
  refine firstSymbol_takes ⟨ha, ?_⟩ ((ho.mem_iff op).2 hop) ?_ ?_ (hw.run_append hb r)
  · rw [hs]
    simpa using hx
  · rw [hy]
    simpa using hguard y hfollow
  · intro s hs hfit
    rw [hy] at hfit
    exact Classical.byContradiction fun hne =>
      (ho.apart s ((ho.mem_iff s).1 hs) op hop hne).not_fits hfollow z hfit

/-- Symbols that are apart from the one that stands there are refused. -/
theorem symbol_refuses (ho : IsLevel o symbols) {others : List String}
    (hmem : ∀ s ∈ others, s ∈ operatorSymbols)
    (hapart : ∀ s ∈ symbols, ∀ op ∈ others, Apart s op) (hm : IsSymbol others m op)
    (hw : Derives k w t) (r : Text) : o.symbol.Refuses (m ++ (w ++ r)) := by
  obtain ⟨a, b, rfl, ha, hop, hb⟩ := hm
  obtain ⟨x, s, hs, hx, -⟩ := exists_cons_of_mem_operatorSymbols (hmem op hop)
  obtain ⟨y, z, hy, hfollow⟩ := exists_followChar hb hw r
  have htext : a ++ (op.toList ++ b) ++ (w ++ r) = a ++ (op.toList ++ y :: z) := by
    rw [← hy]
    simp
  rw [htext, Operators.symbol, ho.guardChars_eq]
  refine firstSymbol_refuses ⟨ha, ?_⟩ fun s hs =>
    (hapart s ((ho.mem_iff s).1 hs) op hop).not_fits hfollow z
  rw [hs]
  simpa using hx

/-- No symbol is found where nothing or a closing bracket follows a gap. -/
theorem symbol_refuses_close (ho : IsLevel o symbols) {b r : Text} (hb : IsGap b)
    (hr : ∀ x ∈ r.head?, x = ')') : o.symbol.Refuses (b ++ r) := by
  have hrun : Text.Run isWhite b r := by
    refine ⟨hb, fun x hx => ?_⟩
    rw [hr x hx]
    decide
  rw [Operators.symbol]
  refine firstSymbol_refuses hrun ?_
  rintro s hs ⟨r', rfl, -⟩
  obtain ⟨x, s', hs', -, -, -, hx⟩ := exists_cons_of_mem_operatorSymbols
    (ho.mem s ((ho.mem_iff s).1 hs))
  exact hx (hr x (by simp [hs']))

end IsLevel

/-! ## Where an expression ends -/

/-- The levels of operators that an expression of a rank may contain outside brackets. -/
def Rank.levels : Rank → List Operators
  | atom => []
  | power => [powers]
  | product => [powers, products]
  | sum => [powers, products, sums]

/-- The symbols of these levels. -/
def Rank.symbols : Rank → List String
  | atom => []
  | power => ["^", "**"]
  | product => ["^", "**", "*", "/"]
  | sum => operatorSymbols

theorem exists_isLevel {k : Rank} {o : Operators} (h : o ∈ k.levels) :
    ∃ symbols, IsLevel o symbols ∧ ∀ s ∈ symbols, s ∈ k.symbols := by
  cases k with
  | atom => simp [Rank.levels] at h
  | power =>
    obtain rfl := List.mem_singleton.1 h
    exact ⟨_, isLevel_powers, by decide⟩
  | product =>
    simp only [Rank.levels, List.mem_cons, List.not_mem_nil, or_false] at h
    rcases h with rfl | rfl
    · exact ⟨_, isLevel_powers, by decide⟩
    · exact ⟨_, isLevel_products, by decide⟩
  | sum =>
    simp only [Rank.levels, List.mem_cons, List.not_mem_nil, or_false] at h
    rcases h with rfl | rfl | rfl
    · exact ⟨_, isLevel_powers, by decide⟩
    · exact ⟨_, isLevel_products, by decide⟩
    · exact ⟨_, isLevel_sums, by decide⟩

/-- A text does not continue an expression of a rank that stands in front of it. -/
structure Stops (k : Rank) (r : Text) : Prop where
  /-- It does not continue a number. -/
  number : ∀ x ∈ r.head?, isDigit x = false ∧ x ≠ '.'
  /-- It does not begin with an operator of the rank. -/
  symbol : ∀ o ∈ k.levels, o.symbol.Refuses r

/-- **An operator of a looser level does not continue an expression.** -/
theorem stops_symbol {k : Rank} {symbols : List String}
    (hmem : ∀ s ∈ symbols, s ∈ operatorSymbols)
    (hapart : ∀ s ∈ k.symbols, ∀ op ∈ symbols, Apart s op) {m : Text} {op : String}
    (hm : IsSymbol symbols m op) {j : Rank} {w : Text} {t : Tree Float} (hw : Derives j w t)
    (r : Text) : Stops k (m ++ (w ++ r)) := by
  refine ⟨fun x hx => ?_, fun o ho => ?_⟩
  case refine_2 =>
    obtain ⟨others, hlevel, hothers⟩ := exists_isLevel ho
    exact hlevel.symbol_refuses hmem (fun s hs => hapart s (hothers s hs)) hm hw r
  obtain ⟨a, b, rfl, ha, hop, -⟩ := hm
  cases a with
  | nil =>
    obtain ⟨y, s, hs, -, hdigit, hpoint, -⟩ := exists_cons_of_mem_operatorSymbols (hmem op hop)
    obtain rfl : y = x := by simpa [hs] using hx
    exact ⟨hdigit, hpoint⟩
  | cons y a =>
    obtain rfl : y = x := by simpa using hx
    have hall : ∀ y ∈ whiteChars, isDigit y = false ∧ y ≠ '.' :=
      Text.forall_mem_of_all (by decide)
    exact hall y (by simpa [isWhite] using ha y (by simp))

/-- **A gap and a closing bracket, or the end of the text, continue no expression.** -/
theorem stops_close (k : Rank) {b r : Text} (hb : IsGap b) (hr : ∀ x ∈ r.head?, x = ')') :
    Stops k (b ++ r) := by
  refine ⟨fun x hx => ?_, fun o ho => (exists_isLevel ho).elim fun _ h =>
    h.1.symbol_refuses_close hb hr⟩
  have hall : ∀ y ∈ ')' :: whiteChars, isDigit y = false ∧ y ≠ '.' :=
    Text.forall_mem_of_all (by decide)
  refine hall x ?_
  cases b with
  | nil => simp [hr x hx]
  | cons y b =>
    obtain rfl : y = x := by simpa using hx
    exact List.mem_cons_of_mem _ (by simpa [isWhite] using hb y (by simp))

/-! ## What is read is an expression -/

theorem parens_reads {self : Parser (Tree Float)} (hself : self.Reads IsExpr) :
    (parens self).Reads (Derives .atom) := by
  have hchar : ∀ c, (Parser.char c).Reads fun w x => w = [c] ∧ x = c := by
    intro c s
    cases s with
    | nil => exact .inr (satisfy_refuses (by simp))
    | cons x r =>
      by_cases hx : x = c
      · subst hx
        exact .inl ⟨[x], r, x, rfl, satisfy_takes (by simp) r, rfl, rfl⟩
      · exact .inr (satisfy_refuses (by simpa using hx))
  refine (Reads.delimitedBy (hchar '(') hself (hchar ')')).mono ?_
  rintro s t ⟨_, _, _, _, _, rfl, ⟨rfl, -⟩, ⟨a, w, b, rfl, ha, hw, hb⟩, rfl, -⟩
  exact .parens ha hw hb

theorem number_reads : (Parser.map Tree.leaf unsignedDecimal).Reads (Derives .atom) := by
  refine (numeral_reads.map (M := fun w x => IsNumeral w ∧ x = toFloat w) ?_).map ?_
  · rintro w _ ⟨hw, rfl⟩
    exact ⟨hw, by rw [String.toList_ofList]⟩
  · rintro w _ ⟨hw, rfl⟩
    exact .number hw

section Reads

variable {self : Parser (Tree Float)} (hself : self.Reads IsExpr)
include hself

theorem atom_reads : (atom self).Reads (Derives .atom) := number_reads.either (parens_reads hself)

theorem powers_reads : (operators powers (atom self)).Reads (Derives .power) :=
  (rightOperators_reads isLevel_powers.symbol_reads (atom_reads hself)).map
    fun _ _ h => h.flatten .ofAtom .power

theorem products_reads :
    (operators products (operators powers (atom self))).Reads (Derives .product) :=
  (leftOperators_reads isLevel_products.symbol_reads (powers_reads hself)).map
    fun _ _ h => h.flatten .ofPower .product

theorem sums_reads :
    (operators sums (operators products (operators powers (atom self)))).Reads (Derives .sum) :=
  (leftOperators_reads isLevel_sums.symbol_reads (products_reads hself)).map
    fun _ _ h => h.flatten .ofProduct .sum

theorem exprWith_reads : (exprWith self).Reads IsExpr := (sums_reads hself).spaced

end Reads

/-- **What is read is an expression**, at every level of unrolling. -/
theorem level_reads : ∀ n, (level n).Reads IsExpr
  | 0 => fun _ => .inr fun _ => rfl
  | n + 1 => exprWith_reads (level_reads n)

/-! ## Expressions are read

The opening brackets of an expression bound how deep the grammar refers to itself in it, and a
level of unrolling is enough for expressions with fewer of them.  What follows the expression may
have any number of brackets: if the unrolling is not enough for those, then less of what follows is
read, but never less of the expression. -/

/-- Expressions of a rank with at most `n` opening brackets are recognised: as a whole in front of
what does not continue them, and at least as a whole in front of everything else. -/
structure Recognises (p : Parser (Tree Float)) (k : Rank) (n : Nat) : Prop where
  takes : ∀ {w t r}, Bounded n k w t → Stops k r → p.Takes w r t
  takesAtLeast : ∀ {w t} (r), Bounded n k w t → p.TakesAtLeast w r

/-- One level of operators over operands that are recognised is legible. -/
theorem Recognises.legible {p : Parser (Tree Float)} {k : Rank} {n : Nat} (hp : Recognises p k n)
    (hreads : p.Reads (Derives k)) {o : Operators} {symbols : List String}
    (ho : IsLevel o symbols) (hapart : ∀ s ∈ k.symbols, ∀ op ∈ symbols, Apart s op) :
    Legible o.symbol p (IsSymbol symbols) (Bounded n k) (Stops k) where
  symbol_ne_nil := ho.ne_nil
  symbol_takes r hm hw := ho.symbol_takes hm hw.1 r
  symbol_reads := ho.symbol_reads.mono fun _ _ h => h.1
  operand_takes := hp.takes
  operand_takesAtLeast := hp.takesAtLeast
  operand_reads := hreads.mono fun _ _ _ => trivial
  stop r hm hw := stops_symbol ho.mem hapart hm hw.1 r

/-- **One more level that groups to the left is recognised**, if its expressions are chains. -/
theorem Recognises.left {p : Parser (Tree Float)} {j k : Rank} {n : Nat} (hp : Recognises p j n)
    (hreads : p.Reads (Derives j)) {o : Operators} {symbols : List String}
    (ho : IsLevel o symbols) (hassoc : o.assoc = .left) (hlevels : k.levels = j.levels ++ [o])
    (hapart : ∀ s ∈ j.symbols, ∀ op ∈ symbols, Apart s op)
    (hchain : ∀ {w t}, Bounded n k w t →
      ∃ T, LeftChain (IsSymbol symbols) (Bounded n j) w T ∧ T.flatten = t) :
    Recognises (operators o p) k n := by
  have h := hp.legible hreads ho hapart
  have hparser : operators o p = Parser.map Tree.flatten (leftOperators o.symbol p) := by
    rw [operators, Operators.parser, hassoc]
  rw [hparser]
  constructor
  · intro w t r hw hr
    obtain ⟨T, hT, rfl⟩ := hchain hw
    have hstop : Stops j r :=
      ⟨hr.number, fun o' ho' => hr.symbol o' (hlevels ▸ List.mem_append_left _ ho')⟩
    have hend : o.symbol.Refuses r := hr.symbol o (hlevels ▸ by simp)
    exact (h.leftOperators_takes hT hstop hend).map Tree.flatten
  · intro w t r hw
    obtain ⟨T, hT, rfl⟩ := hchain hw
    exact (h.leftOperators_takesAtLeast hT r).map Tree.flatten

section Recognises

variable {self : Parser (Tree Float)} {n : Nat} (hreads : self.Reads IsExpr)
  (htakes : ∀ {w t} (r), IsExpr w t → w.count '(' < n → self.Takes w (')' :: r) t)

theorem count_parens (s : Text) : (['('] ++ (s ++ [')'])).count '(' = s.count '(' + 1 := by
  simp

include htakes in
theorem parens_takes {s : Text} {t : Tree Float} (hs : IsExpr s t)
    (hn : (['('] ++ (s ++ [')'])).count '(' ≤ n) (r : Text) :
    (atom self).Takes (['('] ++ (s ++ [')'])) r t := by
  rw [count_parens] at hn
  have hopen : (Parser.char '(').Takes ['('] (s ++ ([')'] ++ r)) '(' := satisfy_takes (by decide) _
  have hclose : (Parser.char ')').Takes [')'] r ')' := satisfy_takes (by decide) r
  have hno : (Parser.map Tree.leaf unsignedDecimal).Refuses (['('] ++ (s ++ [')']) ++ r) :=
    ((numeral_refuses (by simp [isDigit, digitChars])).map _).map _
  exact hno.either_takes (hopen.delimitedBy (htakes r hs hn) hclose)

include htakes in
theorem atom_recognises : Recognises (atom self) .atom n where
  takes := by
    rintro w t r ⟨hw, hn⟩ hr
    cases hw with
    | number hw =>
      have h := ((numeral_takes hw hr.number).map fun s => toFloat s.toList).map Tree.leaf
      rw [String.toList_ofList] at h
      exact h.either
    | parens ha hw hb => exact parens_takes htakes ⟨_, _, _, rfl, ha, hw, hb⟩ hn r
  takesAtLeast := by
    rintro w t r ⟨hw, hn⟩
    cases hw with
    | number hw =>
      obtain ⟨x, r', v, hr, h⟩ := (numeral_takesAtLeast hw r).map fun s => toFloat s.toList
      exact ⟨x, r', .leaf v, hr, (h.map Tree.leaf).either⟩
    | parens ha hw hb => exact (parens_takes htakes ⟨_, _, _, rfl, ha, hw, hb⟩ hn r).atLeast

include hreads htakes in
theorem powers_recognises : Recognises (operators powers (atom self)) .power n := by
  have h := (atom_recognises htakes).legible (atom_reads hreads) isLevel_powers (by decide)
  constructor
  · rintro w t r ⟨hw, hn⟩ hr
    obtain ⟨T, hT, rfl⟩ := Bounded.rightChain hw hn
    exact (h.rightOperators_takes hT ⟨hr.number, by simp [Rank.levels]⟩
      (hr.symbol powers (List.mem_singleton_self _))).map Tree.flatten
  · rintro w t r ⟨hw, hn⟩
    obtain ⟨T, hT, rfl⟩ := Bounded.rightChain hw hn
    exact (h.rightOperators_takesAtLeast hT r).map Tree.flatten

include hreads htakes in
theorem products_recognises :
    Recognises (operators products (operators powers (atom self))) .product n :=
  (powers_recognises hreads htakes).left (powers_reads hreads) isLevel_products rfl rfl (by decide)
    fun h => Bounded.leftChain_product h.1 h.2

include hreads htakes in
theorem sums_recognises :
    Recognises (operators sums (operators products (operators powers (atom self)))) .sum n :=
  (products_recognises hreads htakes).left (products_reads hreads) isLevel_sums rfl rfl (by decide)
    fun h => Bounded.leftChain_sum h.1 h.2

end Recognises

theorem level_takes {n : Nat} {s r : Text} {t : Tree Float} (hs : IsExpr s t)
    (hn : s.count '(' < n) (hr : ∀ x ∈ r.head?, x = ')') : (level n).Takes s r t := by
  induction n generalizing s r t with
  | zero => simp at hn
  | succ n ih =>
    obtain ⟨a, w, b, rfl, ha, hw, hb⟩ := hs
    have hrec := sums_recognises (level_reads n) fun r hs hn => ih hs hn (by simp)
    have hcount : w.count '(' ≤ n := by
      simp only [List.count_append] at hn
      omega
    have hrun : Text.Run isWhite b r := by
      refine ⟨hb, fun x hx => ?_⟩
      rw [hr x hx]
      decide
    exact Takes.spaced (hw.run_append ha _) (hrec.takes ⟨hw, hcount⟩ (stops_close .sum hb hr)) hrun

theorem level_takesAtLeast {n : Nat} {s : Text} {t : Tree Float} (hs : IsExpr s t)
    (hn : s.count '(' < n) (r : Text) : (level n).TakesAtLeast s r := by
  cases n with
  | zero => simp at hn
  | succ n =>
    obtain ⟨a, w, b, rfl, ha, hw, hb⟩ := hs
    have hrec := sums_recognises (level_reads n) fun r hs hn => level_takes hs hn (by simp)
    have hcount : w.count '(' ≤ n := by
      simp only [List.count_append] at hn
      omega
    obtain ⟨x, r', t', hx, ht⟩ := hrec.takesAtLeast (b ++ r) ⟨hw, hcount⟩
    obtain ⟨y, r'', rfl, hrun⟩ := Text.exists_run isWhite r'
    have ha' : Text.Run isWhite a ((w ++ x) ++ (y ++ r'')) := by
      rw [List.append_assoc]
      exact hw.run_append ha _
    have htakes := Takes.spaced ha' ht hrun
    -- what was taken behind `w` covers the gap `b`, since a gap is never left half read
    rw [← List.append_assoc, List.append_eq_append_iff] at hx
    rcases hx with ⟨z, hz, rfl⟩ | ⟨z, rfl, hz⟩
    · refine ⟨z, r'', t', rfl, ?_⟩
      have hs : a ++ (w ++ b) ++ z = a ++ ((w ++ x) ++ y) := by simp [hz]
      rwa [hs]
    · cases z with
      | nil =>
        obtain rfl : r'' = r := hz
        refine ⟨[], r'', t', rfl, ?_⟩
        have hs : a ++ (w ++ (x ++ y ++ [])) ++ [] = a ++ ((w ++ x) ++ y) := by simp
        rwa [hs]
      | cons c z =>
        have hwhite : isWhite c = true := hb c (by simp)
        rw [hrun.stop c (by simp [hz])] at hwhite
        exact absurd hwhite (by simp)

/-! ## The longest expression is read -/

/-- **Unrolling the grammar once for each opening bracket is enough**: the longest beginning of the
text that is an expression is taken, and the text is refused if there is none. -/
theorem level_longest {n : Nat} {s : Text} (hn : s.count '(' < n) :
    (∃ w r t, s = w ++ r ∧ (level n).Takes w r t ∧ IsExpr w t ∧
      ∀ w' t', w' <+: s → IsExpr w' t' → w'.length ≤ w.length) ∨
    ((level n).Refuses s ∧ ∀ w t, w <+: s → ¬ IsExpr w t) := by
  have hcount : ∀ {w}, w <+: s → w.count '(' < n := fun hw =>
    Nat.lt_of_le_of_lt (hw.sublist.count_le '(') hn
  rcases level_reads n s with ⟨w, r, t, hs, ht, hw⟩ | hr
  · refine .inl ⟨w, r, t, hs, ht, hw, ?_⟩
    rintro w' t' hpre hw'
    obtain ⟨r', rfl⟩ := hpre
    obtain ⟨x, r'', u, rfl, hu⟩ := level_takesAtLeast hw' (hcount (List.prefix_append w' r')) r'
    obtain ⟨rfl, -, -⟩ := hu.unique ht (by simpa using hs)
    simp
  · refine .inr ⟨hr, ?_⟩
    rintro w t hpre hw
    obtain ⟨r', rfl⟩ := hpre
    obtain ⟨x, r'', u, rfl, hu⟩ := level_takesAtLeast hw (hcount (List.prefix_append w r')) r'
    exact hu.not_refuses (by simpa using hr)

theorem expr_reads : expr.Reads IsExpr := by
  intro s
  rcases level_reads (s.count '(' + 1) s with ⟨w, r, t, rfl, ht, hw⟩ | hr
  · exact .inl ⟨w, r, t, rfl, fun past => ht past, hw⟩
  · exact .inr fun past => hr past

/-- An expression that makes up the whole text is read. -/
theorem expr_takes {s : Text} {t : Tree Float} (hs : IsExpr s t) : expr.Takes s [] t := by
  intro past
  rw [List.append_nil]
  have h := level_takes (r := []) hs (Nat.lt_succ_self _) (by simp) past
  rwa [List.append_nil] at h

/-- **Expressions are not ambiguous.** -/
theorem IsExpr.unique {s : Text} {t t' : Tree Float} (h : IsExpr s t) (h' : IsExpr s t') :
    t = t' :=
  ((expr_takes h).unique (expr_takes h') rfl).2.2

theorem ended_expr_eq_ok_iff {s : Text} {t : Tree Float} {c : Cursor} :
    (ended expr).run s = .ok t c ↔ IsExpr s t ∧ c = ⟨s.reverse, []⟩ := by
  constructor
  · intro h
    rcases expr_reads s with ⟨w, r, u, rfl, hu, hw⟩ | hr
    · by_cases hr : r = []
      · subst hr
        have e := (hu.ended []).symm.trans h
        simp only [Outcome.ok.injEq, List.append_nil] at e
        obtain ⟨rfl, rfl⟩ := e
        exact ⟨by rwa [List.append_nil], by rw [List.append_nil]⟩
      · exact absurd ((hu.ended_error hr []).symm.trans h) (by simp)
    · exact absurd ((hr.ended []).symm.trans h) (by simp)
  · rintro ⟨hs, rfl⟩
    have h := (expr_takes hs).ended []
    rwa [List.append_nil, List.append_nil] at h

/-- **The longest expression is read.**  Of the beginnings of a text that are expressions the
longest is read and its tree is the value; if no beginning is one, there is a mismatch.  And a text
is read to its end exactly if it is an expression, which has only one tree. -/
theorem run_expr (s : Text) :
    ((∃ w r t, s = w ++ r ∧ expr.run s = .ok t ⟨w.reverse, r⟩ ∧ IsExpr w t ∧
        ∀ w' t', w' <+: s → IsExpr w' t' → w'.length ≤ w.length) ∨
      (expr.run s = .error .mismatch ∧ ∀ w t, w <+: s → ¬ IsExpr w t)) ∧
    (∀ t c, (ended expr).run s = .ok t c ↔ IsExpr s t ∧ c = ⟨s.reverse, []⟩) ∧
    ∀ t t', IsExpr s t → IsExpr s t' → t = t' := by
  refine ⟨?_, fun t c => ended_expr_eq_ok_iff, fun t t' => IsExpr.unique⟩
  rcases level_longest (Nat.lt_succ_self (s.count '(')) with
    ⟨w, r, t, rfl, ht, hw, hlong⟩ | ⟨hr, hno⟩
  · exact .inl ⟨w, r, t, rfl, (ht []).trans (by rw [List.append_nil]), hw, hlong⟩
  · exact .inr ⟨hr [], hno⟩

end Arithmetic

end Backtrack
