import Backtrack.Proofs.Pattern.Closing.Basic

/-!
# A bracket behind a class

A class ends with a square bracket, and a round bracket inside it is a character like any other.  So
a round bracket behind a text neither ends a class that is open nor changes one that is closed, and
the reader of classes is in step with itself (`ClassReader.read?_inStep`).

The way there is less smooth.  A single item of a class may well be completed by the bracket, as the
upper end of a range is, or may need it in order not to be the last thing in the text.  What saves
the class is that nothing but the bracket is left then (`Strands`), and that a class cannot end
there (`rest?_eq_none`).

Some readers decide by the first one or two characters and go on with what follows.  What they go on
with is given a name here, so that the decision and the rest can be treated one after the other:
`nameFrom?`, `behindItem?`, `behindHyphen?`, `openingFrom`, and `operator?` for the signs of two
characters.
-/

set_option autoImplicit false

namespace Backtrack

namespace Pattern

namespace ClassReader

variable {s s' : Text} (f : Flags)

/-! ## Names -/

/-- Read the name of a class, after its sign. -/
def nameFrom? (negated : Bool) (s : Text) : Option (Option CharSet × Text) :=
  match s.dropWhile (· != ':') with
  | ':' :: ']' :: rest =>
    (CharSet.asciiClass? (String.ofList (s.takeWhile (· != ':')))).map fun set =>
      (Escape.classOf? f negated set, rest)
  | _ => none

theorem nameFrom?_inStep (h : Closing s s') (negated : Bool) :
    InStep s s' (nameFrom? f negated s) (nameFrom? f negated s') := by
  rw [nameFrom?, nameFrom?]
  obtain ⟨hdrop, hdrop'⟩ | ⟨htake, hdrop⟩ := h.takeWhile (p := (· != ':')) rfl
  · rw [hdrop, hdrop']
    exact .refused
  · rw [htake]
    generalize s.dropWhile (· != ':') = t, s'.dropWhile (· != ':') = t' at hdrop
    obtain ⟨u, u', rfl, rfl, hu⟩ | ⟨hne, hne'⟩ :=
      hdrop.closing.begins₂ (x := ':') (y := ']') (by decide) (by decide)
    · exact .map_left _ _ ((hdrop.tail (.cons _ hu)).tail hu)
    · simp only
      exact .refused

theorem named?_inStep (h : Closing s s') : InStep s s' (named? f s) (named? f s') := by
  obtain ⟨t, t', rfl, rfl, ht⟩ | ⟨hne, hne'⟩ := h.begins (x := ':') (by decide)
  · obtain ⟨u, u', rfl, rfl, hu⟩ | ⟨hne, hne'⟩ := ht.begins (x := '^') (by decide)
    · exact (nameFrom?_inStep f hu true).mono ((Behind.head ht _).tail hu)
    · simp only [named?]
      exact (nameFrom?_inStep f ht false).mono (.head ht _)
  · simp only [named?]
    exact .refused

/-! ## Items and ranges -/

/-- An item takes at least one character. -/
theorem item?_carries (h : Closing s s') :
    Carries s.tail s'.tail (item? f s) (item? f s') ∨
      (item? f s = none ∧ Escape.Stalls f (item? f s')) := by
  obtain ⟨t, t', rfl, rfl, ht⟩ | ⟨hne, hne'⟩ := h.begins (x := '\\') (by decide)
  · exact Escape.read?_carries f ht
  · cases h with
    | nil => exact .inl (.inl .refused)
    | bracket => exact .inl (.completed (Atom.literal ')'))
    | @cons c t t' h =>
      have hc : c ≠ '\\' := fun hc => hne t (hc ▸ rfl)
      simp only [item?]
      exact .inl (.inl (.left _ (.refl h)))

/-- The characters from one item of a class to another. -/
def between? (a b : Atom) : Option CharSet :=
  match a, b with
  | .literal lo, .literal hi =>
    if lo ≤ hi ∧ (f.unicode ∨ hi.toNat < 0x80) then some (.between lo hi) else none
  | _, _ => none

/-- Read what follows an item of a class and a hyphen. -/
def behindHyphen? (a : Atom) (t : Text) : Option (CharSet × Text) :=
  match f.skip t with
  | [] => none
  | c :: u =>
    if c == ']' || c == '-' then (setOf? f a).map (·, '-' :: t)
    else (item? f (c :: u)).bind fun x => (between? f a x.1).map (·, x.2)

/-- Read what follows an item of a class. -/
def behindItem? (a : Atom) : Text → Option (CharSet × Text)
  | [] => none
  | '-' :: t => behindHyphen? f a t
  | s => (setOf? f a).map (·, s)

theorem between?_look (a : Atom) (l : Look) : between? f a (.look l) = none := by
  rcases a with lo | set | l'
  · rfl
  · rfl
  · rfl

theorem between?_map (a b : Atom) (rest : Text) :
    (match a, b with
      | .literal lo, .literal hi =>
        if lo ≤ hi ∧ (f.unicode ∨ hi.toNat < 0x80) then some (CharSet.between lo hi, rest) else none
      | _, _ => none) = (between? f a b).map (·, rest) := by
  rcases a with lo | set | l
  · rcases b with hi | set | l
    · show (if _ then _ else _) = Option.map _ (if _ then _ else _)
      split
      · rfl
      · rfl
    · rfl
    · rfl
  · rfl
  · rfl

theorem range?_eq (s : Text) :
    range? f s = (item? f s).bind fun x => behindItem? f x.1 (f.skip x.2) := by
  rw [range?]
  congr
  funext ⟨a, t⟩
  simp only
  generalize f.skip t = u
  split
  · rfl
  · next v =>
    rw [behindItem?, behindHyphen?]
    rcases f.skip v with _ | ⟨c, w⟩
    · rfl
    · simp only
      split
      · rfl
      · congr
        funext ⟨b, rest⟩
        exact between?_map f a b rest
  · simp only [behindItem?]

/-- Two readings are in step, or the bracket completes what is refused without it or is all that is
left behind it. -/
def Strands (s s' : Text) (o o' : Option (CharSet × Text)) : Prop :=
  InStep s s' o o' ∨ (o = none ∧ ∀ x, o' = some x → Closing [] x.2)

theorem behindHyphen?_strands (h : Closing s s') (a : Atom) :
    Strands ('-' :: s) ('-' :: s') (behindHyphen? f a s) (behindHyphen? f a s') := by
  have hs : Behind ('-' :: s) ('-' :: s') (f.skip s) (f.skip s') := (Behind.head h '-').skip f
  rw [behindHyphen?, behindHyphen?]
  generalize f.skip s = t, f.skip s' = t' at hs
  cases hs.closing with
  | nil => exact .inl .refused
  | bracket =>
    -- the range goes up to the bracket
    refine .inr ⟨rfl, fun x hx => ?_⟩
    obtain ⟨set, -, rfl⟩ := Option.map_eq_some_iff.1 hx
    exact .nil
  | cons c ht =>
    simp only
    split
    · exact .inl (.map_left _ _ (.refl (.cons _ h)))
    · obtain ((⟨hb, hb'⟩ | ⟨b, r, r', hb, hb', hr⟩) | ⟨hb, b, hb'⟩) | ⟨hb, l, u, hb', -⟩ :=
        item?_carries f (.cons c ht)
      · rw [hb, hb']
        exact .inl .refused
      · rw [hb, hb']
        exact .inl (.map_left _ _ ((hs.tail ht).trans hr))
      · rw [hb, hb']
        refine .inr ⟨rfl, fun x hx => ?_⟩
        obtain ⟨set, -, rfl⟩ := Option.map_eq_some_iff.1 hx
        exact .nil
      · rw [hb, hb', Option.bind_some, between?_look]
        exact .inl .refused

theorem behindItem?_strands (h : Closing s s') (a : Atom) :
    Strands s s' (behindItem? f a s) (behindItem? f a s') := by
  obtain ⟨t, t', rfl, rfl, ht⟩ | ⟨hne, hne'⟩ := h.begins (x := '-') (by decide)
  · exact behindHyphen?_strands f ht a
  · cases h with
    | nil => exact .inl .refused
    | bracket =>
      refine .inr ⟨rfl, fun x hx => ?_⟩
      obtain ⟨set, -, rfl⟩ := Option.map_eq_some_iff.1 hx
      exact .bracket
    | @cons c t t' ht =>
      have hc : c ≠ '-' := fun hc => hne t (hc ▸ rfl)
      simp only [behindItem?]
      exact .inl (.map_left _ _ (.refl (.cons c ht)))

theorem range?_strands (h : Closing s s') :
    Strands s.tail s'.tail (range? f s) (range? f s') := by
  rw [range?_eq, range?_eq]
  obtain ((⟨ha, ha'⟩ | ⟨a, r, r', ha, ha', hr⟩) | ⟨ha, a, ha'⟩) | ⟨ha, l, t, ha', -⟩ :=
    item?_carries f h
  · rw [ha, ha']
    exact .inl .refused
  · rw [ha, ha']
    have hskip := hr.skip f
    obtain hitem | hitem := behindItem?_strands f hskip.closing a
    · exact .inl (hitem.mono hskip)
    · exact .inr hitem
  · rw [ha, ha', Option.bind_some, Flags.skip_nil]
    exact .inl .refused
  · rw [ha, ha', Option.bind_some, Flags.skip_brace]
    exact .inl .refused

/-! ## The beginning of a class -/

theorem hyphens_of_ne {k : OpenClass} {n : Nat} (h : ∀ t, s ≠ '-' :: t) :
    hyphens f n k s = (k, s) := by
  rw [hyphens.eq_def]
  split
  · exact absurd rfl (h _)
  · rfl

theorem hyphens_alike (k : OpenClass) {n n' : Nat} (h : Closing s s') (hn : s.length ≤ n)
    (hn' : s'.length ≤ n') : Alike s s' (hyphens f n k s) (hyphens f n' k s') := by
  induction n generalizing n' k s s' with
  | zero =>
    obtain rfl : s = [] := List.length_eq_zero_iff.1 (by omega)
    obtain ⟨t, t', ht, -⟩ | ⟨hne, hne'⟩ := h.begins (x := '-') (by decide)
    · cases ht
    · exact ⟨k, [], s', hyphens_of_ne f hne, hyphens_of_ne f hne', .refl h⟩
  | succ n ih =>
    obtain ⟨t, t', rfl, rfl, ht⟩ | ⟨hne, hne'⟩ := h.begins (x := '-') (by decide)
    · have hle := f.length_skip_le t
      have hle' := f.length_skip_le t'
      rw [List.length_cons] at hn hn'
      obtain ⟨n', rfl⟩ : ∃ m, n' = m + 1 := ⟨n' - 1, by omega⟩
      have hskip : (f.skip t').length ≤ n' := by omega
      obtain ⟨k', r, r', hr, hr', hb⟩ := ih (k.add ⟨.single '-', 0⟩) (ht.skip f) (by omega) hskip
      exact ⟨k', r, r', hr, hr', ((Behind.head ht _).skip f).trans hb⟩
    · exact ⟨k, s, s', hyphens_of_ne f hne, hyphens_of_ne f hne', .refl h⟩

/-- Read the beginning of a class, after its sign. -/
def openingFrom (negated : Bool) (s : Text) : Bool × OpenClass × Text :=
  let (k, s) := hyphens f s.length .new s
  match s with
  | ']' :: t => if k.items = 0 then (negated, k.add ⟨.single ']', 0⟩, f.skip t) else (negated, k, s)
  | _ => (negated, k, s)

theorem openingFrom_alike (h : Closing s s') (negated : Bool) :
    ∃ k r r', openingFrom f negated s = (negated, k, r) ∧
      openingFrom f negated s' = (negated, k, r') ∧ Behind s s' r r' := by
  obtain ⟨k, t, t', ht, ht', hb⟩ := hyphens_alike f .new h (Nat.le_refl _) (Nat.le_refl _)
  simp only [openingFrom, ht, ht']
  obtain ⟨u, u', rfl, rfl, hu⟩ | ⟨hne, hne'⟩ := hb.closing.begins (x := ']') (by decide)
  · simp only
    split
    · exact ⟨_, _, _, rfl, rfl, (hb.tail hu).skip f⟩
    · exact ⟨k, _, _, rfl, rfl, hb⟩
  · simp only
    exact ⟨k, t, t', rfl, rfl, hb⟩

theorem opening_alike (h : Closing s s') :
    ∃ negated k r r', opening f s = (negated, k, r) ∧ opening f s' = (negated, k, r') ∧
      Behind s s' r r' := by
  have hs : Behind s s' (f.skip s) (f.skip s') := (Behind.refl h).skip f
  obtain ⟨u, u', ht, ht', hu⟩ | ⟨hne, hne'⟩ := hs.closing.begins (x := '^') (by decide)
  · simp only [opening, ht, ht']
    rw [ht, ht'] at hs
    obtain ⟨k, r, r', hr, hr', hb⟩ := openingFrom_alike f (hu.skip f) true
    exact ⟨true, k, r, r', hr, hr', ((hs.tail hu).skip f).trans hb⟩
  · simp only [opening]
    obtain ⟨k, r, r', hr, hr', hb⟩ := openingFrom_alike f hs.closing false
    exact ⟨false, k, r, r', hr, hr', hs.trans hb⟩

/-! ## The rest of a class -/

/-- Read an operator. -/
def operator? : Text → Option (SetOp × Text)
  | '&' :: '&' :: t => some (.inter, t)
  | '-' :: '-' :: t => some (.diff, t)
  | '~' :: '~' :: t => some (.symmDiff, t)
  | _ => none

theorem operator?_inStep (h : Closing s s') :
    InStep s.tail s'.tail (operator? s) (operator? s') := by
  obtain ⟨u, u', rfl, rfl, hu⟩ | ⟨hinter, hinter'⟩ :=
    h.begins₂ (x := '&') (y := '&') (by decide) (by decide)
  · exact .left SetOp.inter (.head hu _)
  obtain ⟨u, u', rfl, rfl, hu⟩ | ⟨hdiff, hdiff'⟩ :=
    h.begins₂ (x := '-') (y := '-') (by decide) (by decide)
  · exact .left SetOp.diff (.head hu _)
  obtain ⟨u, u', rfl, rfl, hu⟩ | ⟨hsymm, hsymm'⟩ :=
    h.begins₂ (x := '~') (y := '~') (by decide) (by decide)
  · exact .left SetOp.symmDiff (.head hu _)
  simp only [operator?]
  exact .refused

theorem rest?_operator {n : Nat} {k : OpenClass} {op : SetOp} {t : Text}
    (hs : operator? (f.skip s) = some (op, t)) :
    rest? f (n + 1) k s = rest? f n (k.push f op) t := by
  rw [rest?]
  generalize f.skip s = u at hs
  rw [operator?.eq_def] at hs
  split at hs
  · cases hs
    rfl
  · cases hs
    rfl
  · cases hs
    rfl
  · cases hs

theorem rest?_range {n : Nat} {k : OpenClass} {c : Char} {t : Text} (hs : f.skip s = c :: t)
    (hclose : c ≠ ']') (hopen : c ≠ '[') (hop : operator? (c :: t) = none) :
    rest? f (n + 1) k s = (range? f (c :: t)).bind fun x => rest? f n (k.add ⟨x.1, 0⟩) x.2 := by
  rw [rest?, hs]
  split
  · next heq => cases heq
  · next heq => cases heq; exact absurd rfl hclose
  · next heq => rw [heq] at hop; cases hop
  · next heq => rw [heq] at hop; cases hop
  · next heq => rw [heq] at hop; cases hop
  · next heq => cases heq; exact absurd rfl hopen
  · rcases range? f (c :: t) with _ | x
    · rfl
    · rfl

/-- A round bracket does not end a class. -/
theorem rest?_eq_none (h : Closing [] (f.skip s)) (n : Nat) (k : OpenClass) :
    rest? f n k s = none := by
  rcases n with _ | n
  · rfl
  · generalize ht : f.skip s = t at h
    cases h with
    | nil => rw [rest?, ht]
    | bracket =>
      rw [rest?_range f ht (by decide) (by decide) rfl, range?_eq]
      show (behindItem? f _ (f.skip [])).bind _ = none
      rw [Flags.skip_nil]
      rfl

theorem rest?_inStep (k : OpenClass) {n n' : Nat} (h : Closing s s') (hn : s.length < n)
    (hn' : s'.length < n') : InStep s s' (rest? f n k s) (rest? f n' k s') := by
  induction n generalizing n' k s s' with
  | zero => omega
  | succ n ih =>
    obtain ⟨n', rfl⟩ : ∃ m, n' = m + 1 := ⟨n' - 1, by omega⟩
    have hs : Behind s s' (f.skip s) (f.skip s') := (Behind.refl h).skip f
    generalize ht : f.skip s = t, ht' : f.skip s' = t' at hs
    cases hs.closing with
    | nil => exact .inl ⟨rest?_eq_none f (ht ▸ .nil) _ k, rest?_eq_none f (ht' ▸ .nil) _ k⟩
    | bracket => exact .inl ⟨rest?_eq_none f (ht ▸ .nil) _ k, rest?_eq_none f (ht' ▸ .bracket) _ k⟩
    | @cons c u u' hu =>
      -- all that follows starts behind the first character, so the induction hypothesis applies
      have hrest : ∀ (k : OpenClass) {r r' : Text}, Behind u u' r r' →
          InStep u u' (rest? f n k r) (rest? f n' k r') := by
        intro k r r' hr
        have hlt : u.length < s.length := hs.le
        have hlt' : u'.length < s'.length := hs.le'
        have hle := hr.le
        have hle' := hr.le'
        exact (ih k hr.closing (by omega) (by omega)).mono hr
      refine InStep.mono ?_ (hs.tail hu)
      by_cases hclose : c = ']'
      · subst hclose
        rw [rest?, rest?, ht, ht']
        exact .left _ (.refl hu)
      by_cases hopen : c = '['
      · subst hopen
        rw [rest?, rest?, ht, ht']
        simp only
        obtain ⟨hname, hname'⟩ | ⟨set, r, r', hname, hname', hr⟩ := named?_inStep f hu
        · obtain ⟨negated, inner, r, r', hopen, hopen', hr⟩ := opening_alike f hu
          simp only [hname, hname', hopen, hopen']
          obtain ⟨hv, hv'⟩ | ⟨v, w, w', hv, hv', hw⟩ := hrest inner hr
          · rw [hv, hv']
            exact .refused
          · simp only [hv, hv']
            rcases Escape.classOf? f negated v.set with _ | set
            · exact .refused
            · exact hrest _ hw
        · rcases set with _ | set
          · simp only [hname, hname']
            exact .refused
          · simp only [hname, hname']
            exact hrest _ hr
      obtain ⟨hop, hop'⟩ | ⟨op, v, v', hop, hop', hv⟩ := operator?_inStep (.cons c hu)
      · rw [rest?_range f ht hclose hopen hop, rest?_range f ht' hclose hopen hop']
        obtain hrange | ⟨hnone, hstrand⟩ := range?_strands f (.cons c hu)
        · exact hrange.bind fun set r r' hr => hrest _ hr
        · rw [hnone]
          refine .inl ⟨rfl, Option.bind_eq_none_iff.2 fun x hx => ?_⟩
          exact rest?_eq_none f (f.skip_nil ▸ (hstrand x hx).skip f) _ _
      · rw [rest?_operator f (ht ▸ hop), rest?_operator f (ht' ▸ hop')]
        exact hrest _ hv

/-- **A class with a round bracket behind it is read as before.** -/
theorem read?_inStep (h : Closing s s') : InStep s s' (read? f s) (read? f s') := by
  obtain ⟨negated, k, r, r', hr, hr', hb⟩ := opening_alike f h
  simp only [read?, hr, hr']
  refine ((rest?_inStep f k hb.closing ?_ ?_).mono hb).bind ?_
  · exact Nat.lt_succ_of_le hb.le
  · exact Nat.lt_succ_of_le hb.le'
  · intro v t t' ht
    exact .map_left _ _ ht

end ClassReader

end Pattern

end Backtrack
