import Backtrack.Pattern.Reader

/-!
# Reading with a bracket behind the text

Whoever writes a closing bracket behind the text of a pattern hopes that the pattern is read as
before and that the bracket is left over.  Most readers of parts of a pattern cannot do otherwise,
since they look for an end of their own, but not all of them: the bracket may be taken for a part of
a comment, and it may complete what was cut short without it, such as an escape at the end of the
text.  This file says what can happen, in a form that is handed on from the small readers to the
large ones.

* `Closing s s'` — the text `s'` is `s`, perhaps with a bracket behind it.  Blanks and comments are
  skipped in both in the same way (`Closing.skip`), and a comment that swallows the bracket only
  makes the two equal.
* `Behind s s' r r'` — the texts that are left behind `s` and `s'` are of this kind again, and are
  no longer than what they were left of.  The lengths are there for the readers that count steps.
* `Alike`, `InStep`, `Carries` — what two readings have in common: they give the same value, or they
  either do so or are both refused, or the bracket also may complete the one in front of it.  In the
  last case nothing is left, and so the bracket is lost.

The escapes are the first readers to which this is applied.  They have a case of their own: what
stands behind `\b` and an opening curly bracket is the name of a condition or a number of rounds,
and a single bracket there decides for the number, which it is not (`Escape.Stalls`).
-/

set_option autoImplicit false

namespace Backtrack

namespace Pattern

/-! ## What is skipped -/

namespace Flags

theorem length_dropBlanks_le (comment : Bool) (s : Text) :
    (dropBlanks comment s).length ≤ s.length := by
  induction s generalizing comment with
  | nil => exact Nat.le_refl _
  | cons c s ih =>
    rw [dropBlanks, List.length_cons]
    split
    · exact Nat.le_succ_of_le (ih _)
    · split
      · exact Nat.le_succ_of_le (ih false)
      · split
        · exact Nat.le_succ_of_le (ih true)
        · exact Nat.le_refl _

theorem length_skip_le (f : Flags) (s : Text) : (f.skip s).length ≤ s.length := by
  rw [skip]
  split
  · exact length_dropBlanks_le false s
  · exact Nat.le_refl _

@[simp]
theorem skip_nil (f : Flags) : f.skip [] = [] := by
  rw [skip]
  split
  · rfl
  · rfl

@[simp]
theorem skip_brace (f : Flags) (s : Text) : f.skip ('\x7b' :: s) = '\x7b' :: s := by
  rw [skip]
  split
  · rfl
  · rfl

end Flags

/-! ## Texts with a bracket behind them -/

/-- The second text is the first one, or the first one with a closing bracket behind it. -/
inductive Closing : Text → Text → Prop
  | nil : Closing [] []
  | bracket : Closing [] [')']
  | cons (c : Char) {t t' : Text} (h : Closing t t') : Closing (c :: t) (c :: t')

namespace Closing

variable {s s' : Text}

theorem refl (s : Text) : Closing s s := by
  induction s with
  | nil => exact .nil
  | cons c s ih => exact .cons c ih

theorem append_bracket (s : Text) : Closing s (s ++ [')']) := by
  induction s with
  | nil => exact .bracket
  | cons c s ih => exact .cons c ih

theorem dropBlanks (h : Closing s s') (comment : Bool) :
    Closing (Flags.dropBlanks comment s) (Flags.dropBlanks comment s') := by
  induction h generalizing comment with
  | nil => exact .nil
  | bracket =>
    -- a comment swallows the bracket, and then nothing is left of either text
    cases comment with
    | false => exact .bracket
    | true => exact .nil
  | cons c h ih =>
    rw [Flags.dropBlanks, Flags.dropBlanks]
    split
    · exact ih _
    · split
      · exact ih false
      · split
        · exact ih true
        · exact .cons c h

theorem skip (h : Closing s s') (f : Flags) : Closing (f.skip s) (f.skip s') := by
  rw [Flags.skip, Flags.skip]
  split
  · exact h.dropBlanks false
  · exact h

theorem dropWhile (h : Closing s s') {p : Char → Bool} (hp : p ')' = false) :
    Closing (s.dropWhile p) (s'.dropWhile p) := by
  induction h with
  | nil => exact .nil
  | bracket =>
    rw [List.dropWhile_cons_of_neg (by simp [hp])]
    exact .bracket
  | cons c h ih =>
    rw [List.dropWhile_cons, List.dropWhile_cons]
    split
    · exact ih
    · exact .cons c h

/-- Both texts begin with a character other than the bracket, or neither does. -/
theorem begins (h : Closing s s') {x : Char} (hx : x ≠ ')') :
    (∃ t t', s = x :: t ∧ s' = x :: t' ∧ Closing t t') ∨
      (∀ t, s ≠ x :: t) ∧ ∀ t, s' ≠ x :: t := by
  cases h with
  | nil => exact .inr ⟨by simp, by simp⟩
  | bracket => exact .inr ⟨by simp, by simp [hx.symm]⟩
  | cons c h =>
    by_cases hc : c = x
    · subst hc
      exact .inl ⟨_, _, rfl, rfl, h⟩
    · exact .inr ⟨by simp [hc], by simp [hc]⟩

/-- The same for two characters. -/
theorem begins₂ (h : Closing s s') {x y : Char} (hx : x ≠ ')') (hy : y ≠ ')') :
    (∃ t t', s = x :: y :: t ∧ s' = x :: y :: t' ∧ Closing t t') ∨
      (∀ t, s ≠ x :: y :: t) ∧ ∀ t, s' ≠ x :: y :: t := by
  obtain ⟨t, t', rfl, rfl, ht⟩ | ⟨hs, hs'⟩ := h.begins hx
  · obtain ⟨u, u', rfl, rfl, hu⟩ | ⟨ht, ht'⟩ := ht.begins hy
    · exact .inl ⟨u, u', rfl, rfl, hu⟩
    · exact .inr ⟨by simpa using ht, by simpa using ht'⟩
  · exact .inr ⟨fun t => hs (y :: t), fun t => hs' (y :: t)⟩

end Closing

/-- The texts `r` and `r'` are left behind readings of `s` and `s'`. -/
structure Behind (s s' r r' : Text) : Prop where
  closing : Closing r r'
  le : r.length ≤ s.length
  le' : r'.length ≤ s'.length

namespace Behind

variable {s s' t t' r r' : Text} {c : Char}

theorem refl (h : Closing s s') : Behind s s' s s' := ⟨h, Nat.le_refl _, Nat.le_refl _⟩

theorem trans (h : Behind s s' t t') (ht : Behind t t' r r') : Behind s s' r r' :=
  ⟨ht.closing, Nat.le_trans ht.le h.le, Nat.le_trans ht.le' h.le'⟩

theorem skip (h : Behind s s' r r') (f : Flags) : Behind s s' (f.skip r) (f.skip r') :=
  h.trans ⟨h.closing.skip f, f.length_skip_le r, f.length_skip_le r'⟩

theorem dropWhile (h : Behind s s' r r') {p : Char → Bool} (hp : p ')' = false) :
    Behind s s' (r.dropWhile p) (r'.dropWhile p) :=
  h.trans ⟨h.closing.dropWhile hp, (List.dropWhile_suffix p).length_le,
    (List.dropWhile_suffix p).length_le⟩

theorem head (h : Closing t t') (c : Char) : Behind (c :: t) (c :: t') t t' :=
  ⟨h, Nat.le_succ _, Nat.le_succ _⟩

theorem tail (h : Behind s s' (c :: t) (c :: t')) (ht : Closing t t') : Behind s s' t t' :=
  h.trans (head ht c)

end Behind

/-- A search for a character other than the bracket finds it at the same place or not at all. -/
theorem Closing.takeWhile {s s' : Text} {p : Char → Bool} (h : Closing s s') (hp : p ')' = true) :
    (s.dropWhile p = [] ∧ s'.dropWhile p = []) ∨
      (s'.takeWhile p = s.takeWhile p ∧ Behind s s' (s.dropWhile p) (s'.dropWhile p)) := by
  induction h with
  | nil => exact .inl ⟨rfl, rfl⟩
  | bracket => exact .inl ⟨rfl, by simp [hp]⟩
  | cons c h ih =>
    by_cases hc : p c
    · simp only [List.dropWhile_cons_of_pos hc, List.takeWhile_cons_of_pos hc]
      obtain ih | ⟨htake, hdrop⟩ := ih
      · exact .inl ih
      · exact .inr ⟨by rw [htake], (Behind.head h c).trans hdrop⟩
    · simp only [List.dropWhile_cons_of_neg hc, List.takeWhile_cons_of_neg hc]
      exact .inr ⟨trivial, .refl (.cons c h)⟩

/-! ## Readings that go together -/

section

variable {α β : Type}

/-- Two readings give the same value. -/
def Alike (s s' : Text) (x x' : α × Text) : Prop :=
  ∃ a r r', x = (a, r) ∧ x' = (a, r') ∧ Behind s s' r r'

/-- Two readings give the same value or are both refused. -/
def InStep (s s' : Text) (o o' : Option (α × Text)) : Prop :=
  (o = none ∧ o' = none) ∨ ∃ a r r', o = some (a, r) ∧ o' = some (a, r') ∧ Behind s s' r r'

/-- Two readings are in step, or the bracket completes what is refused without it. -/
def Carries (s s' : Text) (o o' : Option (α × Text)) : Prop :=
  InStep s s' o o' ∨ (o = none ∧ ∃ a, o' = some (a, []))

variable {s s' r r' : Text} {o o' : Option (α × Text)}

namespace InStep

theorem refused : InStep s s' (none : Option (α × Text)) none := .inl ⟨rfl, rfl⟩

theorem left (a : α) (h : Behind s s' r r') : InStep s s' (some (a, r)) (some (a, r')) :=
  .inr ⟨a, r, r', rfl, rfl, h⟩

theorem map_left (v : Option α) (g : α → β) (h : Behind s s' r r') :
    InStep s s' (v.map fun a => (g a, r)) (v.map fun a => (g a, r')) := by
  rcases v with _ | a
  · exact refused
  · exact left (g a) h

theorem mono (h : InStep r r' o o') (hr : Behind s s' r r') : InStep s s' o o' := by
  obtain h | ⟨a, t, t', ho, ho', ht⟩ := h
  · exact .inl h
  · exact .inr ⟨a, t, t', ho, ho', hr.trans ht⟩

theorem bind {q q' : α × Text → Option (β × Text)} (h : InStep s s' o o')
    (hq : ∀ a r r', Behind s s' r r' → InStep s s' (q (a, r)) (q' (a, r'))) :
    InStep s s' (o.bind q) (o'.bind q') := by
  obtain ⟨rfl, rfl⟩ | ⟨a, r, r', rfl, rfl, hr⟩ := h
  · exact refused
  · exact hq a r r' hr

theorem map {q q' : α × Text → β × Text} (h : InStep s s' o o')
    (hq : ∀ a r r', Behind s s' r r' → Alike s s' (q (a, r)) (q' (a, r'))) :
    InStep s s' (o.map q) (o'.map q') := by
  obtain ⟨rfl, rfl⟩ | ⟨a, r, r', rfl, rfl, hr⟩ := h
  · exact refused
  · obtain ⟨b, t, t', hq, hq', ht⟩ := hq a r r' hr
    rw [Option.map_some, Option.map_some, hq, hq']
    exact left b ht

theorem carries (h : InStep s s' o o') : Carries s s' o o' := .inl h

end InStep

namespace Carries

theorem completed (a : α) : Carries s s' none (some (a, [])) := .inr ⟨rfl, a, rfl⟩

theorem mono (h : Carries r r' o o') (hr : Behind s s' r r') : Carries s s' o o' := by
  obtain h | h := h
  · exact .inl (h.mono hr)
  · exact .inr h

/-- What is given without the bracket is given with it. -/
theorem of_some {a : α} (h : Carries s s' (some (a, r)) o') :
    ∃ r', o' = some (a, r') ∧ Behind s s' r r' := by
  obtain (⟨ho, -⟩ | ⟨b, t, t', ho, ho', ht⟩) | ⟨ho, -⟩ := h
  · simp at ho
  · obtain ⟨rfl, rfl⟩ : a = b ∧ r = t := by simpa using ho
    exact ⟨t', ho', ht⟩
  · simp at ho

/-- Where something is left with the bracket, the same is given without it. -/
theorem of_cons {a : α} {c : Char} {t : Text} (h : Carries s s' o (some (a, c :: t))) :
    ∃ r, o = some (a, r) ∧ Behind s s' r (c :: t) := by
  obtain (⟨-, ho'⟩ | ⟨b, r, r', ho, ho', hr⟩) | ⟨-, b, ho'⟩ := h
  · simp at ho'
  · obtain ⟨rfl, rfl⟩ : a = b ∧ c :: t = r' := by simpa using ho'
    exact ⟨r, ho, hr⟩
  · simp at ho'

/-- What follows is read from what is left; behind something completed it must leave nothing. -/
theorem bind {q q' : α × Text → Option (β × Text)} (h : Carries s s' o o')
    (hq : ∀ a r r', Behind s s' r r' → Carries s s' (q (a, r)) (q' (a, r')))
    (hnil : ∀ a x, q' (a, []) = some x → x.2 = []) : Carries s s' (o.bind q) (o'.bind q') := by
  obtain (⟨rfl, rfl⟩ | ⟨a, r, r', rfl, rfl, hr⟩) | ⟨rfl, a, rfl⟩ := h
  · exact .inl .refused
  · exact hq a r r' hr
  · rw [Option.bind_none, Option.bind_some]
    rcases hb : q' (a, []) with _ | ⟨b, t⟩
    · exact .inl .refused
    · obtain rfl : t = [] := hnil a _ hb
      exact completed b

theorem map_fst (h : Carries s s' o o') (g : α → β) :
    Carries s s' (o.map fun x => (g x.1, x.2)) (o'.map fun x => (g x.1, x.2)) := by
  obtain (⟨rfl, rfl⟩ | ⟨a, r, r', rfl, rfl, hr⟩) | ⟨rfl, a, rfl⟩ := h
  · exact .inl .refused
  · exact .inl (.left (g a) hr)
  · exact completed (g a)

end Carries

end

/-! ## Escapes -/

namespace Escape

variable {s s' : Text} (f : Flags)

theorem hexDigits?_inStep (h : Closing s s') (n v : Nat) :
    InStep s s' (hexDigits? f n v s) (hexDigits? f n v s') := by
  induction n generalizing v s s' with
  | zero => exact .map_left (charOf? v) id (.refl h)
  | succ n ih =>
    cases h with
    | nil => exact .refused
    | bracket => exact .refused
    | cons c h =>
      rw [hexDigits?, hexDigits?]
      rcases hexValue? c with _ | d
      · exact .refused
      · exact (ih (h.skip f) _).mono ((Behind.head h c).skip f)

theorem braced?_nil (n : Nat) : braced? f n [] = none := by
  rcases n with _ | n
  · rfl
  · rfl

/-- Between curly brackets there is a bracket to come, and it is not the round one. -/
theorem braced?_inStep {n n' : Nat} (h : Closing s s') (hn : s.length < n)
    (hn' : s'.length < n') : InStep s s' (braced? f n s) (braced? f n' s') := by
  induction n generalizing n' s s' with
  | zero => omega
  | succ n ih =>
    obtain ⟨n', rfl⟩ : ∃ m, n' = m + 1 := ⟨n' - 1, by omega⟩
    cases h with
    | nil => exact .refused
    | bracket =>
      refine .inl ⟨rfl, ?_⟩
      simp [braced?, braced?_nil]
    | @cons c t t' h =>
      have hle := f.length_skip_le t
      have hle' := f.length_skip_le t'
      rw [List.length_cons] at hn hn'
      rw [braced?, braced?]
      split
      · exact .left [] (.head h c)
      · refine InStep.map ((ih (h.skip f) ?_ ?_).mono ((Behind.head h c).skip f)) ?_
        · omega
        · omega
        · intro name r r' hr
          exact ⟨c :: name, r, r', rfl, rfl, hr⟩

/-- The form in which the text between curly brackets is read, after the opening one. -/
theorem braced?_skip_inStep (h : Closing s s') :
    InStep s s' (braced? f (s.length + 1) (f.skip s)) (braced? f (s'.length + 1) (f.skip s')) := by
  have hle := f.length_skip_le s
  have hle' := f.length_skip_le s'
  exact (braced?_inStep f (h.skip f) (by omega) (by omega)).mono ((Behind.refl h).skip f)

theorem codePoint?_inStep (h : Closing s s') (n : Nat) :
    InStep s s' (codePoint? f n s) (codePoint? f n s') := by
  have hs : Behind s s' (f.skip s) (f.skip s') := (Behind.refl h).skip f
  rw [codePoint?, codePoint?]
  generalize f.skip s = t, f.skip s' = t' at hs
  obtain ⟨u, u', rfl, rfl, hu⟩ | ⟨hne, hne'⟩ := hs.closing.begins (x := '\x7b') (by decide)
  · refine ((braced?_skip_inStep f hu).mono (hs.tail hu)).bind ?_
    intro digits r r' hr
    exact .map_left _ _ (hr.skip f)
  · simp only
    refine ((hexDigits?_inStep f hs.closing n 0).mono hs).bind ?_
    intro x r r' hr
    simp only
    split
    · exact .refused
    · exact .left x hr

theorem property?_carries (h : Closing s s') (negated : Bool) :
    Carries s s' (property? f negated s) (property? f negated s') := by
  have hs : Behind s s' (f.skip s) (f.skip s') := (Behind.refl h).skip f
  rw [property?, property?]
  split
  · exact .inl .refused
  generalize f.skip s = t, f.skip s' = t' at hs
  obtain ⟨u, u', rfl, rfl, hu⟩ | ⟨hne, hne'⟩ := hs.closing.begins (x := '\x7b') (by decide)
  · refine .inl (((braced?_skip_inStep f hu).mono (hs.tail hu)).bind ?_)
    intro name r r' hr
    show InStep s s' ((CharSet.property? name).bind _) ((CharSet.property? name).bind _)
    rcases CharSet.property? name with _ | set
    · exact .refused
    · exact .map_left _ _ hr
  · cases hs.closing with
    | nil => exact .inl .refused
    | bracket =>
      -- if there were a class with that name, the bracket would complete it
      show Carries s s' none ((CharSet.category? _).bind fun set =>
        (classOf? f negated set).map (·, f.skip []))
      rw [Flags.skip_nil]
      rcases CharSet.category? (String.ofList (CharSet.normalizeName [')'])) with _ | set
      · exact .inl .refused
      · rw [Option.bind_some]
        rcases classOf? f negated set with _ | set'
        · exact .inl .refused
        · exact .completed set'
    | @cons c u u' hu =>
      have hc : c ≠ '\x7b' := fun hc => hne u (hc ▸ rfl)
      simp only
      rcases CharSet.category? (String.ofList (CharSet.normalizeName [c])) with _ | set
      · exact .inl .refused
      · exact .inl (.map_left _ _ ((hs.tail hu).skip f))

/-- A condition has been read, and a number of rounds is to follow that begins with the bracket. -/
def Stalls (o : Option (Atom × Text)) : Prop :=
  ∃ l t, o = some (.look l, '\x7b' :: t) ∧ f.skip t = [')']

theorem namedLook?_inStep (h : Closing s s') :
    InStep ('\x7b' :: s) ('\x7b' :: s') (namedLook? f s) (namedLook? f s') ∨
      (namedLook? f s = none ∧ namedLook? f s' = some (none, '\x7b' :: s') ∧
        f.skip s' = [')']) := by
  have hs : Behind s s' (f.skip s) (f.skip s') := (Behind.refl h).skip f
  rw [namedLook?, namedLook?]
  generalize ht : f.skip s = t, ht' : f.skip s' = t' at hs
  cases hs.closing with
  | nil => exact .inl .refused
  | bracket => exact .inr ⟨rfl, rfl, rfl⟩
  | @cons c u u' hu =>
    refine .inl ?_
    simp only
    split
    · exact .left none (.refl (.cons _ h))
    · refine ((braced?_inStep f hs.closing ?_ ?_).mono ((Behind.head h _).trans hs)).bind ?_
      · exact Nat.lt_succ_self _
      · exact Nat.lt_succ_self _
      · intro name r r' hr
        simp only
        split
        · exact .left _ hr
        · exact .left _ hr
        · exact .left _ hr
        · exact .left _ hr
        · exact .refused

theorem read?_boundary_carries (h : Closing s s') :
    Carries ('b' :: s) ('b' :: s') (read? f ('b' :: s)) (read? f ('b' :: s')) ∨
      (read? f ('b' :: s) = none ∧ Stalls f (read? f ('b' :: s'))) := by
  have hs : Behind ('b' :: s) ('b' :: s') s s' := .head h 'b'
  simp only [read?]
  obtain ⟨t, t', rfl, rfl, ht⟩ | ⟨hne, hne'⟩ := h.begins (x := '\x7b') (by decide)
  · simp only
    obtain hlook | ⟨hnone, hsome, hskip⟩ := namedLook?_inStep f ht
    · exact .inl ((hlook.mono hs).carries.map_fst fun l =>
        Atom.look (l.getD (.wordBoundary f.word)))
    · rw [hnone, hsome]
      exact .inr ⟨rfl, _, t', rfl, hskip⟩
  · simp only
    exact .inl (.inl (.left _ hs))

/-- **An escape with a bracket behind it.**  The bracket is carried along, or completes the escape,
or is taken for a number of rounds. -/
theorem read?_carries (h : Closing s s') :
    Carries s s' (read? f s) (read? f s') ∨ (read? f s = none ∧ Stalls f (read? f s')) := by
  cases h with
  | nil => exact .inl (.inl .refused)
  | bracket => exact .inl (.completed (Atom.literal ')'))
  | @cons c t t' h =>
    have ht : Behind (c :: t) (c :: t') t t' := .head h c
    by_cases hb : c = 'b'
    · subst hb
      exact read?_boundary_carries f h
    refine .inl ?_
    simp only [read?]
    split
    case h_1 | h_2 | h_3 => exact ((codePoint?_inStep f h _).carries.mono ht).map_fst _
    case h_4 | h_5 => exact ((property?_carries f h _).mono ht).map_fst _
    case h_9 | h_10 | h_11 => exact (InStep.map_left _ _ ht).carries
    case h_20 => exact absurd rfl hb
    case h_24 =>
      split
      · exact .inl (.left _ ht)
      · exact .inl .refused
    -- all others are one letter, and stand for something whatever follows
    all_goals exact .inl (.left _ ht)

end Escape

end Pattern

end Backtrack
