import Backtrack.Proofs.Operator.Symbol

/-!
# The longest symbol that fits

Symbols are tried one after another, and what decides is the first one that fits.  Because they are
tried in the order of their sizes, the first one is the longest one, and since two beginnings of a
text that have the same size are the same, the order in which the symbols were given does not show
in what is read.

* `StableDescending` — a list put into the order of decreasing sizes, with the elements of one size
  left in the order in which they were;
* `LongestFit` — a symbol that fits, and no other symbol that fits is longer.  A longer symbol may
  well stand in the text, but with a guard character behind it;
* `LongestMatch` — the outcome of reading such a symbol with the gaps around it, or of finding none.

A level has its symbols in order from the start.  Its guard can be replaced, which leaves them in
order, and then only the last guard counts (`foldl_withGuard`).
-/

set_option autoImplicit false

namespace Backtrack

/-! ## The order in which symbols are tried -/

/-- The list `l` is `given` in the order of decreasing sizes, and elements of the same size have not
changed places. -/
structure StableDescending {α : Type} (size : α → Nat) (given l : List α) : Prop where
  /-- Nothing is added or lost. -/
  perm : l.Perm given
  /-- No element is larger than one before it. -/
  descending : l.Pairwise fun a b => size b ≤ size a
  /-- The elements of one size stand in the order in which they were given. -/
  stable : ∀ n, l.filter (fun a => size a == n) = given.filter fun a => size a == n

/-- Two beginnings of a text that have the same size are the same. -/
theorem Text.eq_of_prefix_of_byteSize_eq {s u w : Text} (hu : u <+: s) (hw : w <+: s)
    (h : Text.byteSize u = Text.byteSize w) : u = w := by
  rcases List.prefix_or_prefix_of_prefix hu hw with ⟨x, rfl⟩ | ⟨x, rfl⟩
  · have hx : Text.byteSize x = 0 := by
      rw [Text.byteSize_append] at h
      omega
    rw [Text.byteSize_eq_zero.1 hx, List.append_nil]
  · have hx : Text.byteSize x = 0 := by
      rw [Text.byteSize_append] at h
      omega
    rw [Text.byteSize_eq_zero.1 hx, List.append_nil]

namespace Operators

/-- **Symbols are tried in a stable order of decreasing sizes.** -/
theorem tryOrder_stableDescending (symbols : List String) :
    StableDescending symbolSize symbols (tryOrder symbols) := by
  let le : String → String → Bool := fun a b => decide (symbolSize b ≤ symbolSize a)
  have htrans : ∀ a b c, le a b = true → le b c = true → le a c = true := by
    intro a b c hab hbc
    simp only [le, decide_eq_true_eq] at hab hbc ⊢
    omega
  have htotal : ∀ a b, (le a b || le b a) = true := by
    intro a b
    simp only [le, Bool.or_eq_true, decide_eq_true_eq]
    omega
  have hperm : (tryOrder symbols).Perm symbols := List.mergeSort_perm symbols le
  refine ⟨hperm, pairwise_tryOrder symbols, fun n => ?_⟩
  -- the symbols of one size are a sorted part of the list, and sorting keeps such a part together
  have hpart : (symbols.filter fun s => symbolSize s == n).Pairwise fun a b => le a b = true := by
    rw [List.pairwise_filter]
    refine List.pairwise_of_forall fun a b ha hb => ?_
    rw [beq_iff_eq] at ha hb
    simp only [le, decide_eq_true_eq]
    omega
  have hsub := (List.sublist_mergeSort htrans htotal hpart List.filter_sublist).filter
    fun s => symbolSize s == n
  rw [List.filter_filter, show (fun s => symbolSize s == n && symbolSize s == n) =
    fun s => symbolSize s == n from funext fun s => Bool.and_self _] at hsub
  exact (hsub.eq_of_length (hperm.filter _).length_eq.symm).symm

/-- **Of the guards that are given one after another, only the last one counts.** -/
theorem foldl_withGuard (o : Operators) (classes : List Text) :
    classes.foldl withGuard o = o.withGuard (classes.getLastD o.guardChars) := by
  induction classes generalizing o with
  | nil => rfl
  | cons chars classes ih =>
    rw [List.foldl_cons, ih, List.getLastD_cons]
    rfl

end Operators

namespace Parser

variable {symbols symbols' : List String} {guardChars t : Text} {op op' : String}

/-! ## The first symbol that fits -/

/-- The symbol fits at the beginning of `t`, and no longer symbol does. -/
structure LongestFit (symbols : List String) (guardChars t : Text) (op : String) : Prop where
  /-- It is one of the symbols. -/
  mem : op ∈ symbols
  /-- It stands at the beginning of the text without a guard character behind it. -/
  fits : Fits guardChars op t
  /-- All other symbols of which that is true have no more bytes. -/
  longest : ∀ s ∈ symbols, Fits guardChars s t → symbolSize s ≤ symbolSize op

theorem Fits.isPrefix (h : Fits guardChars op t) : op.toList <+: t := by
  obtain ⟨r, rfl, -⟩ := h
  exact List.prefix_append _ r

/-- **There is only one longest symbol that fits**, and it is the same for the same symbols in
another order. -/
theorem LongestFit.unique (h : LongestFit symbols guardChars t op)
    (h' : LongestFit symbols' guardChars t op') (hmem : ∀ s, s ∈ symbols' ↔ s ∈ symbols) :
    op = op' := by
  have hle : symbolSize op' ≤ symbolSize op := h.longest op' ((hmem op').1 h'.mem) h'.fits
  have hge : symbolSize op ≤ symbolSize op' := h'.longest op ((hmem op).2 h.mem) h.fits
  have hsize : symbolSize op = symbolSize op' := by omega
  have hchars := Text.eq_of_prefix_of_byteSize_eq h.fits.isPrefix h'.fits.isPrefix hsize
  exact String.toList_inj.1 hchars

/-- **The first symbol that fits is the longest**, if longer ones are tried first. -/
theorem firstOf_guarded_longest (guardChars : Text) {l : List String}
    (hl : l.Pairwise fun a b => symbolSize b ≤ symbolSize a) (t : Text) :
    (∃ op r, LongestFit l guardChars t op ∧ t = op.toList ++ r ∧
      (firstOf (l.map fun s => notFollowedBy (text s) (oneOf guardChars))).Takes op.toList r op) ∨
    ∀ s ∈ l, ¬ Fits guardChars s t := by
  induction l with
  | nil => exact .inr (by simp)
  | cons s l ih =>
    rw [List.pairwise_cons] at hl
    by_cases hs : Fits guardChars s t
    · obtain ⟨r, ht, hr⟩ := id hs
      have hlongest : ∀ s' ∈ s :: l, Fits guardChars s' t → symbolSize s' ≤ symbolSize s := by
        intro s' hs' _
        rcases List.mem_cons.1 hs' with rfl | hs'
        · exact Nat.le_refl _
        · exact hl.1 s' hs'
      exact .inl ⟨s, r, ⟨by simp, hs, hlongest⟩, ht, (guarded_takes s hr).firstOf⟩
    · rcases ih hl.2 with ⟨op, r, hop, rfl, htakes⟩ | hno
      · left
        have hlongest : ∀ s' ∈ s :: l, Fits guardChars s' (op.toList ++ r) →
            symbolSize s' ≤ symbolSize op := by
          intro s' hs' hfit
          rcases List.mem_cons.1 hs' with rfl | hs'
          · exact absurd hfit hs
          · exact hop.longest s' hs' hfit
        exact ⟨op, r, ⟨List.mem_cons_of_mem s hop.mem, hop.fits, hlongest⟩, rfl,
          (guarded_refuses hs).firstOf_takes htakes⟩
      · right
        intro s' hs'
        rcases List.mem_cons.1 hs' with rfl | hs'
        · exact hs
        · exact hno s' hs'

/-! ## Reading it -/

/-- What comes of reading a symbol at `c`: behind the gap at `c` the longest symbol that fits is
read together with the gap behind it, or none fits there. -/
inductive LongestMatch (symbols : List String) (guardChars : Text) (c : Cursor) :
    Outcome String → Prop
  /-- A symbol fits, and the longest one that does is read. -/
  | found {op : String} {r : Text}
      (hfit : LongestFit symbols guardChars (c.rest.dropWhile isWhite) op)
      (hrest : c.rest.dropWhile isWhite = op.toList ++ r) :
      LongestMatch symbols guardChars c
        (.ok op (c.moveTo (c.rest.takeWhile isWhite ++ (op.toList ++ r.takeWhile isWhite))
          (r.dropWhile isWhite)))
  /-- No symbol fits. -/
  | missing (h : ∀ s ∈ symbols, ¬ Fits guardChars s (c.rest.dropWhile isWhite)) :
      LongestMatch symbols guardChars c (.error .mismatch)

/-- **Reading a symbol reads the longest one that fits**, if the symbols are in order. -/
theorem firstSymbol_longestMatch (hsymbols : symbols.Pairwise fun a b => symbolSize b ≤ symbolSize a)
    (guardChars : Text) (c : Cursor) :
    LongestMatch symbols guardChars c (firstSymbol symbols guardChars c) := by
  have hgap := Text.run_takeWhile isWhite c.rest
  rcases firstOf_guarded_longest guardChars hsymbols
    (c.rest.dropWhile isWhite) with ⟨op, r, hfit, hrest, htakes⟩ | hno
  · have hr : r.takeWhile isWhite ++ r.dropWhile isWhite = r := List.takeWhile_append_dropWhile
    rw [hrest, ← hr] at hgap
    rw [← hr] at htakes
    have hread := Takes.spaced hgap htakes (Text.run_takeWhile isWhite r) c.past
    rw [List.append_assoc, List.append_assoc, hr, ← hrest, List.takeWhile_append_dropWhile] at hread
    rw [firstSymbol, hread]
    exact .found hfit hrest
  · have hread := firstSymbol_refuses hgap hno c.past
    rw [List.takeWhile_append_dropWhile] at hread
    rw [hread]
    exact .missing hno

/-- What the longest symbol is does not depend on the order of the symbols. -/
theorem LongestMatch.congr {c : Cursor} {o : Outcome String} (h : LongestMatch symbols guardChars c o)
    (hmem : ∀ s, s ∈ symbols ↔ s ∈ symbols') : LongestMatch symbols' guardChars c o := by
  cases h with
  | found hfit hrest =>
    have hfit' : LongestFit symbols' guardChars (c.rest.dropWhile isWhite) _ :=
      ⟨(hmem _).1 hfit.mem, hfit.fits, fun s hs => hfit.longest s ((hmem s).2 hs)⟩
    exact .found hfit' hrest
  | missing hno => exact .missing fun s hs => hno s ((hmem s).2 hs)

theorem operatorSymbol_longestMatch (symbols : List String) (guardChars : Text) (c : Cursor) :
    LongestMatch symbols guardChars c (operatorSymbol symbols guardChars c) :=
  (firstSymbol_longestMatch (Operators.pairwise_tryOrder symbols) guardChars c).congr
    fun _ => Operators.mem_tryOrder

/-- A level relies on the order in which it has its symbols, whatever its guard. -/
theorem symbol_longestMatch (o : Operators) (c : Cursor) :
    LongestMatch o.symbols o.guardChars c (o.symbol c) :=
  firstSymbol_longestMatch o.descending o.guardChars c

/-- **The order of the symbols and their repetition do not matter** to what is read. -/
theorem LongestMatch.unique {c : Cursor} {o o' : Outcome String}
    (h : LongestMatch symbols guardChars c o) (h' : LongestMatch symbols' guardChars c o')
    (hmem : ∀ s, s ∈ symbols' ↔ s ∈ symbols) : o = o' := by
  cases h with
  | found hfit hrest =>
    cases h' with
    | found hfit' hrest' =>
      obtain rfl := hfit.unique hfit' hmem
      obtain rfl := List.append_cancel_left (hrest.symm.trans hrest')
      rfl
    | missing hno => exact absurd hfit.fits (hno _ ((hmem _).2 hfit.mem))
  | missing hno =>
    cases h' with
    | found hfit' _ => exact absurd hfit'.fits (hno _ ((hmem _).1 hfit'.mem))
    | missing _ => rfl

/-- **Operator symbols are read by the longest guarded match.**  This holds of a list of symbols
with any guard, and of a level whose guard has been replaced any number of times, with the guard
that was given last.  The symbols are put into a stable order of decreasing sizes once, and replacing
the guard keeps it.  What is read depends only on which symbols there are. -/
theorem operatorSymbol_longest (symbols : List String) :
    StableDescending symbolSize symbols (Operators.tryOrder symbols) ∧
    (∀ guardChars c, LongestMatch symbols guardChars c (operatorSymbol symbols guardChars c)) ∧
    (∀ (assoc : Assoc) (classes : List Text),
      let o := classes.foldl Operators.withGuard (Operators.level symbols assoc)
      StableDescending symbolSize symbols o.symbols ∧
        ∀ c, LongestMatch symbols (classes.getLastD Operators.defaultGuard) c (o.symbol c)) ∧
    ∀ symbols', (∀ s, s ∈ symbols' ↔ s ∈ symbols) →
      ∀ guardChars c,
        operatorSymbol symbols' guardChars c = operatorSymbol symbols guardChars c := by
  have horder := Operators.tryOrder_stableDescending symbols
  refine ⟨horder, operatorSymbol_longestMatch symbols, fun assoc classes => ?_,
    fun symbols' hmem g c => ?_⟩
  · rw [Operators.foldl_withGuard]
    refine ⟨horder, fun c => ?_⟩
    have h := symbol_longestMatch
      ((Operators.level symbols assoc).withGuard (classes.getLastD Operators.defaultGuard)) c
    exact h.congr fun _ => Operators.mem_tryOrder
  · have h := operatorSymbol_longestMatch symbols g c
    exact (h.unique (operatorSymbol_longestMatch symbols' g c) hmem).symm

/-- The longer of two symbols stands in the text with a guard character behind it, so the shorter
one is read, also if the symbols are given in another order and one of them twice. -/
theorem operatorSymbol_longest_repeated :
    (∀ s, s ∈ ["a", "ab", "a"] ↔ s ∈ ["ab", "a"]) ∧
    operatorSymbol ["a", "ab", "a"] ['x'] ⟨['y'], " abx".toList⟩ =
      operatorSymbol ["ab", "a"] ['x'] ⟨['y'], " abx".toList⟩ ∧
    operatorSymbol ["ab", "a"] ['x'] ⟨['y'], " abx".toList⟩ =
      .ok "a" ⟨"a y".toList, "bx".toList⟩ := by
  have hmem : ∀ s, s ∈ ["a", "ab", "a"] ↔ s ∈ ["ab", "a"] := by
    intro s
    simp only [List.mem_cons, List.not_mem_nil, or_false]
    grind
  have hread : operatorSymbol ["ab", "a"] ['x'] ⟨['y'], " abx".toList⟩ =
      .ok "a" ⟨"a y".toList, "bx".toList⟩ := by
    rw [operatorSymbol, Operators.tryOrder_of_descending (by decide)]
    cbv
  exact ⟨hmem, (operatorSymbol_longest ["ab", "a"]).2.2.2 _ hmem _ _, hread⟩

end Parser

end Backtrack
