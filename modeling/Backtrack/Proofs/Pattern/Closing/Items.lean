import Backtrack.Proofs.Pattern.Closing.Class

/-!
# A bracket behind a pattern

The reader of patterns, run on a text and on the text with a closing bracket behind it
(`items?_carries`).  It gives the same in both cases, and what is left in front of the bracket stays
left.  There are two exceptions, and in both of them the bracket is used up: a comment at the end of
the text swallows it, or it completes something that was refused, be it an escape, a setting of flags
or a group.

The reader takes one item after another, so the proof is a step and an induction.

* `itemFrom?` — one step: an item that begins with a given character, and how to go on behind it,
  which is a parameter; `items?_cons` says that the reader is this step with itself behind it.
* `Continues` — two ways to go on that carry the bracket along.
* `itemFrom?_carries` — the step hands this on, and `items?_carries` follows by induction on the
  number of steps.

The parts of a step come first: bounds of a repetition are closed by a bracket of their own, and so
are in step, while what an opening bracket begins may be completed (`groupStart?_carries`).
-/

set_option autoImplicit false

namespace Backtrack

namespace Pattern

namespace Reader

variable {s s' : Text} (f : Flags) (names : List Text)

/-! ## Repetition -/

theorem greed_alike (h : Closing s s') : Alike s s' (greed s) (greed s') := by
  obtain ⟨t, t', rfl, rfl, ht⟩ | ⟨hne, hne'⟩ := h.begins (x := '?') (by decide)
  · exact ⟨false, t, t', rfl, rfl, .head ht _⟩
  · simp only [greed]
    exact ⟨true, s, s', rfl, rfl, .refl h⟩

theorem isBlank_bracket : Text.isBlank ')' = false := by decide

theorem digits_alike {n n' : Nat} (h : Closing s s') (hn : s.length < n) (hn' : s'.length < n') :
    Alike s s' (count.digits f n s) (count.digits f n' s') := by
  induction n generalizing n' s s' with
  | zero => omega
  | succ n ih =>
    obtain ⟨n', rfl⟩ : ∃ m, n' = m + 1 := ⟨n' - 1, by omega⟩
    cases h with
    | nil => exact ⟨[], [], [], rfl, rfl, .refl .nil⟩
    | bracket => exact ⟨[], [], [')'], rfl, rfl, .refl .bracket⟩
    | @cons c t t' h =>
      have hle := f.length_skip_le t
      have hle' := f.length_skip_le t'
      rw [List.length_cons] at hn hn'
      rw [count.digits, count.digits]
      split
      · have hskip : (f.skip t').length < n' := by omega
        obtain ⟨ds, r, r', hr, hr', hb⟩ := ih (h.skip f) (by omega) hskip
        rw [hr, hr']
        exact ⟨c :: ds, r, r', rfl, rfl, ((Behind.head h c).skip f).trans hb⟩
      · exact ⟨[], _, _, rfl, rfl, (Behind.refl (.cons c h)).dropWhile isBlank_bracket⟩

theorem count_alike (h : Closing s s') : Alike s s' (count f s) (count f s') := by
  have hs := (Behind.refl h).dropWhile isBlank_bracket
  obtain ⟨ds, r, r', hr, hr', hb⟩ :=
    digits_alike f hs.closing (Nat.lt_succ_of_le hs.le) (Nat.lt_succ_of_le hs.le')
  exact ⟨ds, r, r', hr, hr', hs.trans hb⟩

/-- Read the second bound of a repetition, after the comma. -/
def boundsFrom? (least : Nat) (s : Text) : Option (Nat × Option Nat × Text) :=
  match f.skip s with
  | '\x7d' :: t => some (least, none, t)
  | t =>
    let (second, t) := count f t
    (countValue? second).bind fun most =>
      match t with
      | '\x7d' :: t => if least ≤ most then some (least, some most, t) else none
      | _ => none

/-- Two readings give the same bounds or are both refused. -/
def SameBounds (s s' : Text) (o o' : Option (Nat × Option Nat × Text)) : Prop :=
  (o = none ∧ o' = none) ∨
    ∃ least most r r', o = some (least, most, r) ∧ o' = some (least, most, r') ∧ Behind s s' r r'

theorem boundsFrom?_sameBounds (h : Closing s s') (least : Nat) :
    SameBounds s s' (boundsFrom? f least s) (boundsFrom? f least s') := by
  have hs : Behind s s' (f.skip s) (f.skip s') := (Behind.refl h).skip f
  rw [boundsFrom?, boundsFrom?]
  generalize f.skip s = t, f.skip s' = t' at hs
  obtain ⟨u, u', rfl, rfl, hu⟩ | ⟨hne, hne'⟩ := hs.closing.begins (x := '\x7d') (by decide)
  · exact .inr ⟨least, none, u, u', rfl, rfl, hs.tail hu⟩
  · obtain ⟨second, u, u', hu, hu', hb⟩ := count_alike f hs.closing
    simp only [hu, hu']
    rcases countValue? second with _ | most
    · exact .inl ⟨rfl, rfl⟩
    · obtain ⟨v, v', rfl, rfl, hv⟩ | ⟨hne, hne'⟩ := hb.closing.begins (x := '\x7d') (by decide)
      · simp only [Option.bind_some]
        split
        · exact .inr ⟨least, some most, v, v', rfl, rfl, (hs.trans hb).tail hv⟩
        · exact .inl ⟨rfl, rfl⟩
      · simp only [Option.bind_some]
        exact .inl ⟨rfl, rfl⟩

theorem bounds?_sameBounds (h : Closing s s') : SameBounds s s' (bounds? f s) (bounds? f s') := by
  have hs : Behind s s' (f.skip s) (f.skip s') := (Behind.refl h).skip f
  obtain ⟨first, t, t', ht, ht', hb⟩ := count_alike f hs.closing
  simp only [bounds?, ht, ht']
  rcases countValue? first with _ | least
  · exact .inl ⟨rfl, rfl⟩
  · simp only [Option.bind_some]
    obtain ⟨u, u', rfl, rfl, hu⟩ | ⟨hne, hne'⟩ := hb.closing.begins (x := '\x7d') (by decide)
    · exact .inr ⟨least, some least, u, u', rfl, rfl, (hs.trans hb).tail hu⟩
    obtain ⟨u, u', rfl, rfl, hu⟩ | ⟨hnc, hnc'⟩ := hb.closing.begins (x := ',') (by decide)
    · obtain h | ⟨least, most, r, r', hr, hr', hb'⟩ := boundsFrom?_sameBounds f hu least
      · exact .inl h
      · exact .inr ⟨least, most, r, r', hr, hr', ((hs.trans hb).tail hu).trans hb'⟩
    · simp only
      exact .inl ⟨rfl, rfl⟩

/-- A bracket is no number of rounds. -/
theorem bounds?_eq_none (h : f.skip s = [')']) : bounds? f s = none := by
  rw [bounds?, h]
  rfl

/-! ## Groups -/

theorem groupName?_inStep (h : Closing s s') (first : Bool) :
    InStep s s' (groupName? first s) (groupName? first s') := by
  induction h generalizing first with
  | nil => exact .refused
  | bracket =>
    refine .inl ⟨rfl, ?_⟩
    simp [groupName?]
  | cons c h ih =>
    rw [groupName?, groupName?]
    split
    · split
      · exact .refused
      · exact .left [] (.head h c)
    · split
      · refine ((ih false).mono (.head h c)).map ?_
        intro name r r' hr
        exact ⟨c :: name, r, r', rfl, rfl, hr⟩
      · exact .refused

theorem namedGroup?_inStep (h : Closing s s') :
    InStep s s' (namedGroup? f names s) (namedGroup? f names s') := by
  refine (groupName?_inStep h true).bind ?_
  intro name r r' hr
  simp only
  split
  · exact .refused
  · exact .left _ hr

/-- Read a group of flags to its end, where some of it has been read. -/
def flagGroup? (f : Flags) (seen : Text) (off dangling : Bool) (s : Text) :
    Option (GroupStart × Text) :=
  (f.read? seen off dangling s).bind fun (g, empty, t) =>
    match t with
    | ':' :: t => some (.group g names, t)
    | ')' :: t => if empty then none else some (.setFlags g, t)
    | _ => none

theorem flagGroup?_carries (h : Closing s s') (f : Flags) (seen : Text) (off dangling : Bool) :
    Carries s s' (flagGroup? names f seen off dangling s)
      (flagGroup? names f seen off dangling s') := by
  induction h generalizing f seen off dangling with
  | nil => exact .inl .refused
  | bracket =>
    -- flags without an end become a setting, unless there are none
    rcases dangling with _ | _
    · rcases seen with _ | ⟨letter, seen⟩
      · exact .inl .refused
      · exact .completed (GroupStart.setFlags f)
    · exact .inl .refused
  | @cons c t t' h ih =>
    have ht : Behind (c :: t) (c :: t') t t' := .head h c
    rw [flagGroup?, flagGroup?, Flags.read?, Flags.read?]
    split
    · next hc =>
      simp only [Bool.or_eq_true, beq_iff_eq] at hc
      rcases dangling with _ | _
      · obtain rfl | rfl := hc
        · exact .inl (.left _ ht)
        · rcases seen with _ | ⟨letter, seen⟩
          · exact .inl .refused
          · exact .inl (.left (GroupStart.setFlags f) ht)
      · exact .inl .refused
    · split
      · rcases off with _ | _
        · exact (ih f seen true true).mono ht
        · exact .inl .refused
      · split
        · exact .inl .refused
        · rcases f.set? (!off) c with _ | g
          · exact .inl .refused
          · exact (ih g (c :: seen) off false).mono ht

/-- Read what follows an opening round bracket, a question mark and an angle bracket. -/
def angled? : Text → Option (GroupStart × Text)
  | '=' :: _ => none
  | '!' :: _ => none
  | t => namedGroup? f names t

/-- Read what follows an opening round bracket and a question mark. -/
def marked? : Text → Option (GroupStart × Text)
  | '=' :: _ => none
  | '!' :: _ => none
  | 'P' :: '<' :: t => namedGroup? f names t
  | '<' :: t => angled? f names t
  | t => flagGroup? names f [] false false t

theorem groupStart?_eq (s : Text) :
    groupStart? f names s =
      match f.skip s with
      | '?' :: t => marked? f names t
      | t => some (.group f names, t) := by
  rw [groupStart?]
  generalize f.skip s = t
  split
  · rfl
  · rfl
  · rfl
  · rfl
  · rfl
  · simp only [marked?, angled?]
  · simp only [marked?]
    rfl
  · simp only

theorem angled?_inStep (h : Closing s s') :
    InStep s s' (angled? f names s) (angled? f names s') := by
  obtain ⟨t, t', rfl, rfl, -⟩ | ⟨hahead, hahead'⟩ := h.begins (x := '=') (by decide)
  · exact .refused
  obtain ⟨t, t', rfl, rfl, -⟩ | ⟨hnot, hnot'⟩ := h.begins (x := '!') (by decide)
  · exact .refused
  simp only [angled?]
  exact namedGroup?_inStep f names h

theorem marked?_carries (h : Closing s s') :
    Carries s s' (marked? f names s) (marked? f names s') := by
  obtain ⟨t, t', rfl, rfl, -⟩ | ⟨hahead, hahead'⟩ := h.begins (x := '=') (by decide)
  · exact .inl .refused
  obtain ⟨t, t', rfl, rfl, -⟩ | ⟨hnot, hnot'⟩ := h.begins (x := '!') (by decide)
  · exact .inl .refused
  obtain ⟨t, t', rfl, rfl, ht⟩ | ⟨hname, hname'⟩ :=
    h.begins₂ (x := 'P') (y := '<') (by decide) (by decide)
  · exact .inl ((namedGroup?_inStep f names ht).mono ((Behind.head (.cons _ ht) _).tail ht))
  obtain ⟨t, t', rfl, rfl, ht⟩ | ⟨hangle, hangle'⟩ := h.begins (x := '<') (by decide)
  · exact .inl ((angled?_inStep f names ht).mono (.head ht _))
  simp only [marked?]
  exact flagGroup?_carries names h f [] false false

theorem groupStart?_carries (h : Closing s s') :
    Carries s s' (groupStart? f names s) (groupStart? f names s') := by
  have hs : Behind s s' (f.skip s) (f.skip s') := (Behind.refl h).skip f
  rw [groupStart?_eq, groupStart?_eq]
  generalize f.skip s = t, f.skip s' = t' at hs
  obtain ⟨u, u', rfl, rfl, hu⟩ | ⟨hne, hne'⟩ := hs.closing.begins (x := '?') (by decide)
  · exact (marked?_carries f names hu).mono (hs.tail hu)
  · simp only
    exact .inl (.left _ hs)

/-! ## One step -/

/-- Repeat the last item, and go on. -/
def repeated? (next : OpenGroup → Text → Option (OpenGroup × Text)) (g : OpenGroup) (least : Nat)
    (most : Option Nat) (s : Text) : Option (OpenGroup × Text) :=
  let (greedy, t) := greed s
  (repeatLast? g least most greedy).bind fun g => next g t

/-- Read what an opening round bracket begins, and go on. -/
def group? (next : OpenGroup → Text → Option (OpenGroup × Text)) (g : OpenGroup) :
    GroupStart × Text → Option (OpenGroup × Text)
  | (.setFlags f, t) => next { g with flags := f, items := ⟨.empty, 0, false⟩ :: g.items } t
  | (.group f names, t) =>
    match next (.new f names) t with
    | some (inner, ')' :: t) =>
      next ({ g with names := inner.names }.add inner.close.regex (inner.close.depth + 1)) t
    | _ => none

/-- Read an item that begins with a given character, and go on. -/
def itemFrom? (next : OpenGroup → Text → Option (OpenGroup × Text)) (g : OpenGroup) (c : Char)
    (t : Text) : Option (OpenGroup × Text) :=
  match c with
  | ')' => some (g, ')' :: t)
  | '|' => next g.nextBranch t
  | '(' => (groupStart? g.flags g.names t).bind (group? next g)
  | '[' => (ClassReader.read? g.flags t).bind fun x => next (g.add (.set x.1.set) x.1.depth) x.2
  | '?' => repeated? next g 0 (some 1) t
  | '*' => repeated? next g 0 none t
  | '+' => repeated? next g 1 none t
  | '\x7b' => (bounds? g.flags t).bind fun x => repeated? next g x.1 x.2.1 (g.flags.skip x.2.2)
  | '\\' => (Escape.read? g.flags t).bind fun x => next (g.add (regexOf g.flags x.1) 0) x.2
  | '.' => (dot? g.flags).bind fun r => next (g.add r 0) t
  | '^' =>
    next (g.add (.look (if g.flags.multiLine then .lineStart g.flags.crlf else .textStart)) 0) t
  | '$' =>
    next (g.add (.look (if g.flags.multiLine then .lineEnd g.flags.crlf else .textEnd)) 0) t
  | c => next (g.add (regexOf g.flags (.literal c)) 0) t

theorem repeated?_eq (next : OpenGroup → Text → Option (OpenGroup × Text)) (g : OpenGroup)
    (least : Nat) (most : Option Nat) (s : Text) :
    (match greed s with
      | (greedy, t) =>
        match repeatLast? g least most greedy with
        | some g => next g t
        | none => none) = repeated? next g least most s := by
  rw [repeated?]
  obtain ⟨greedy, t⟩ := greed s
  simp only
  rcases repeatLast? g least most greedy with _ | g
  · rfl
  · rfl

theorem items?_nil (n : Nat) {g : OpenGroup} (h : g.flags.skip s = []) :
    items? (n + 1) g s = some (g, []) := by
  rw [items?, h]

/-- The reader takes an item, and goes on with what follows it. -/
theorem items?_cons (n : Nat) {g : OpenGroup} {c : Char} {t : Text} (h : g.flags.skip s = c :: t) :
    items? (n + 1) g s = itemFrom? (items? n) g c t := by
  rw [items?, h]
  symm
  simp only [itemFrom?]
  split
  case h_3 =>
    simp only
    rcases groupStart? g.flags g.names t with _ | ⟨f | ⟨f, names⟩, t⟩
    · rfl
    · rfl
    · rfl
  case h_4 =>
    simp only
    rcases ClassReader.read? g.flags t with _ | x
    · rfl
    · rfl
  case h_5 | h_6 | h_7 => exact (repeated?_eq (items? n) g _ _ t).symm
  case h_8 =>
    simp only
    rcases bounds? g.flags t with _ | x
    · rfl
    · exact (repeated?_eq (items? n) g x.1 x.2.1 (g.flags.skip x.2.2)).symm
  case h_9 =>
    simp only
    rcases Escape.read? g.flags t with _ | x
    · rfl
    · rfl
  case h_10 =>
    simp only
    rcases dot? g.flags with _ | r
    · rfl
    · rfl
  case h_13 => simp only
  all_goals rfl

/-! ## Going on with a bracket behind the text -/

/-- Two ways to go on behind the texts `s` and `s'`. -/
structure Continues (s s' : Text) (next next' : OpenGroup → Text → Option (OpenGroup × Text)) :
    Prop where
  /-- The bracket is carried along. -/
  carries (g : OpenGroup) {r r' : Text} : Behind s s' r r' → Carries s s' (next g r) (next' g r')
  /-- From nothing, nothing is read. -/
  nil (g : OpenGroup) : next' g [] = some (g, [])
  /-- The bracket is no number of rounds. -/
  brace (g : OpenGroup) {t : Text} : g.flags.skip t = [')'] → next' g ('\x7b' :: t) = none

section

variable {next next' : OpenGroup → Text → Option (OpenGroup × Text)}

theorem Continues.rest_eq_nil (hnext : Continues s s' next next') (g : OpenGroup)
    (x : OpenGroup × Text) (h : next' g [] = some x) : x.2 = [] := by
  rw [hnext.nil] at h
  obtain rfl := Option.some.inj h
  rfl

theorem repeated?_carries (hnext : Continues s s' next next') (g : OpenGroup) (least : Nat)
    (most : Option Nat) {r r' : Text} (h : Behind s s' r r') :
    Carries s s' (repeated? next g least most r) (repeated? next' g least most r') := by
  obtain ⟨greedy, t, t', ht, ht', hb⟩ := greed_alike h.closing
  simp only [repeated?, ht, ht']
  rcases repeatLast? g least most greedy with _ | g
  · exact .inl .refused
  · exact hnext.carries g (h.trans hb)

theorem group?_carries (hnext : Continues s s' next next') (g : OpenGroup) (start : GroupStart)
    {r r' : Text} (h : Behind s s' r r') :
    Carries s s' (group? next g (start, r)) (group? next' g (start, r')) := by
  rcases start with f | ⟨f, names⟩
  · exact hnext.carries _ h
  · simp only [group?]
    obtain (⟨hi, hi'⟩ | ⟨inner, t, t', hi, hi', ht⟩) | ⟨hi, inner, hi'⟩ :=
      hnext.carries (.new f names) h
    · rw [hi, hi']
      exact .inl .refused
    · rw [hi, hi']
      cases ht.closing with
      | nil => exact .inl .refused
      | bracket =>
        -- the bracket closes the group, and nothing is left
        simp only [hnext.nil]
        exact .completed _
      | @cons c u u' hu =>
        by_cases hc : c = ')'
        · subst hc
          exact hnext.carries _ (ht.tail hu)
        · refine .inl (.inl ⟨?_, ?_⟩)
          · split
            · next heq => cases heq; exact absurd rfl hc
            · rfl
          · split
            · next heq => cases heq; exact absurd rfl hc
            · rfl
    · rw [hi, hi']
      exact .inl .refused

theorem group?_rest_eq_nil (hnext : Continues s s' next next') (g : OpenGroup) (start : GroupStart)
    (x : OpenGroup × Text) (h : group? next' g (start, []) = some x) : x.2 = [] := by
  rcases start with f | ⟨f, names⟩
  · exact hnext.rest_eq_nil _ x h
  · simp only [group?, hnext.nil] at h
    cases h

/-- **One step carries the bracket along.** -/
theorem itemFrom?_carries (hnext : Continues s s' next next') (h : Closing s s') (g : OpenGroup)
    (c : Char) :
    Carries (c :: s) (c :: s') (itemFrom? next g c s) (itemFrom? next' g c s') := by
  have hs : Behind s s' s s' := .refl h
  simp only [itemFrom?]
  split
  case h_1 => exact .inl (.left g (.refl (.cons _ h)))
  all_goals refine Carries.mono ?_ (.head h _)
  case h_3 =>
    exact (groupStart?_carries g.flags g.names h).bind (fun _ _ _ => group?_carries hnext g _)
      (group?_rest_eq_nil hnext g)
  case h_4 =>
    exact (ClassReader.read?_inStep g.flags h).carries.bind (fun _ _ _ => hnext.carries _)
      fun _ => hnext.rest_eq_nil _
  case h_5 | h_6 | h_7 => exact repeated?_carries hnext g _ _ hs
  case h_8 =>
    obtain ⟨hb, hb'⟩ | ⟨least, most, r, r', hb, hb', hr⟩ := bounds?_sameBounds g.flags h
    · rw [hb, hb']
      exact .inl .refused
    · rw [hb, hb']
      exact repeated?_carries hnext g least most (hr.skip g.flags)
  case h_9 =>
    obtain ha | ⟨ha, l, t, ha', ht⟩ := Escape.read?_carries g.flags h
    · exact ha.bind (fun _ _ _ => hnext.carries _) fun _ => hnext.rest_eq_nil _
    · rw [ha, ha']
      exact .inl (.inl ⟨rfl, hnext.brace _ ht⟩)
  case h_10 =>
    rcases dot? g.flags with _ | r
    · exact .inl .refused
    · exact hnext.carries _ hs
  all_goals exact hnext.carries _ hs

end

theorem items?_brace (n : Nat) {g : OpenGroup} (h : g.flags.skip s = [')']) :
    items? n g ('\x7b' :: s) = none := by
  rcases n with _ | n
  · rfl
  · rw [items?_cons n (g.flags.skip_brace s)]
    show (bounds? g.flags s).bind _ = none
    rw [bounds?_eq_none g.flags h]
    rfl

/-- **The reader carries the bracket along.**  Both readings are given enough steps. -/
theorem items?_carries (h : Closing s s') (g : OpenGroup) {n n' : Nat} (hn : s.length < n)
    (hn' : s'.length < n') : Carries s s' (items? n g s) (items? n' g s') := by
  induction n generalizing n' s s' g with
  | zero => omega
  | succ n ih =>
    obtain ⟨n', rfl⟩ : ∃ m, n' = m + 1 := ⟨n' - 1, by omega⟩
    have hs : Behind s s' (g.flags.skip s) (g.flags.skip s') := (Behind.refl h).skip g.flags
    generalize ht : g.flags.skip s = t, ht' : g.flags.skip s' = t' at hs
    cases hs.closing with
    | nil =>
      rw [items?_nil n ht, items?_nil n' ht']
      exact .inl (.left g hs)
    | bracket =>
      rw [items?_nil n ht, items?_cons n' ht']
      exact .inl (.left g hs)
    | @cons c u u' hu =>
      have hlt : u.length < s.length := hs.le
      have hlt' : u'.length < s'.length := hs.le'
      have hnext : Continues u u' (items? n) (items? n') := by
        refine ⟨fun g r r' hr => ?_, fun g => ?_, fun g t => items?_brace n'⟩
        · have hle := hr.le
          have hle' := hr.le'
          exact (ih hr.closing g (by omega) (by omega)).mono hr
        · obtain ⟨m, rfl⟩ : ∃ m, n' = m + 1 := ⟨n' - 1, by omega⟩
          exact items?_nil m g.flags.skip_nil
      rw [items?_cons n ht, items?_cons n' ht']
      exact (itemFrom?_carries hnext hu g c).mono hs

end Reader

end Pattern

end Backtrack
