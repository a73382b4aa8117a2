import Backtrack.Parser.Choice
import Backtrack.Parser.Enclosed
import Backtrack.Parser.Lookahead

/-!
# What a parser takes

The parsers of tokens and of grammars look only at the unread text: they take a beginning of it,
or they refuse it with a mismatch, and in either case it does not matter what was read before.  So
what such a parser does is said without cursors, in terms of the text it takes and the text that
is left.

* `Takes p w r v` — in front of `r` the parser takes exactly `w` and yields `v`;
* `Refuses p s` — the parser finds a mismatch at the beginning of `s`;
* `Reads p L` — on every text it does one of the two, and what it takes belongs to the language
  `L`.  This is soundness and termination in one;
* `TakesAtLeast p w r` — in front of `r` it takes `w` and perhaps more.

Each combinator has one lemma for every way in which its parts can do these things.
-/

set_option autoImplicit false

namespace Backtrack

namespace Parser

variable {α β γ : Type}

/-- In front of `r` the parser takes exactly `w` and yields `v`. -/
def Takes (p : Parser α) (w r : Text) (v : α) : Prop :=
  ∀ past, p ⟨past, w ++ r⟩ = .ok v ⟨w.reverse ++ past, r⟩

/-- The parser finds a mismatch at the beginning of `s`. -/
def Refuses (p : Parser α) (s : Text) : Prop := ∀ past, p ⟨past, s⟩ = .error .mismatch

/-- On every text the parser takes a beginning that belongs, with its value, to the language `L`,
or it refuses the text. -/
def Reads (p : Parser α) (L : Text → α → Prop) : Prop :=
  ∀ s, (∃ w r v, s = w ++ r ∧ p.Takes w r v ∧ L w v) ∨ p.Refuses s

/-- In front of `r` the parser takes `w` and perhaps more. -/
def TakesAtLeast (p : Parser α) (w r : Text) : Prop :=
  ∃ x r' v, r = x ++ r' ∧ p.Takes (w ++ x) r' v

theorem Takes.atLeast {p : Parser α} {w r : Text} {v : α} (h : p.Takes w r v) :
    p.TakesAtLeast w r :=
  ⟨[], r, v, rfl, by rwa [List.append_nil]⟩

theorem Reads.mono {p : Parser α} {L M : Text → α → Prop} (h : p.Reads L)
    (hLM : ∀ w v, L w v → M w v) : p.Reads M := by
  intro s
  rcases h s with ⟨w, r, v, hs, ht, hL⟩ | hr
  · exact .inl ⟨w, r, v, hs, ht, hLM w v hL⟩
  · exact .inr hr

/-- A parser that reads a language has read a member of it where it succeeds. -/
theorem Reads.of_eq_ok {p : Parser α} {L : Text → α → Prop} (h : p.Reads L) {c d : Cursor} {v : α}
    (hok : p c = .ok v d) : ∃ w, c.rest = w ++ d.rest ∧ d = c.moveTo w d.rest ∧ L w v := by
  rcases h c.rest with ⟨w, r, u, hrest, htakes, hL⟩ | hrefuses
  · have htaken : p c = .ok u (c.moveTo w r) := by
      have := htakes c.past
      rwa [← hrest] at this
    rw [htaken, Outcome.ok.injEq] at hok
    obtain ⟨rfl, rfl⟩ := hok
    exact ⟨w, hrest, rfl, hL⟩
  · have := (hrefuses c.past).symm.trans hok
    simp at this

theorem Reads.ne_diverge {p : Parser α} {L : Text → α → Prop} (h : p.Reads L) (c : Cursor) :
    p c ≠ .diverge := by
  intro hdiverge
  rcases h c.rest with ⟨w, r, v, hrest, htakes, -⟩ | hrefuses
  · have := htakes c.past
    rw [← hrest, hdiverge] at this
    simp at this
  · have := (hrefuses c.past).symm.trans hdiverge
    simp at this

/-- **A parser takes one thing only.**  Two beginnings of a text that are taken are the same, and so
are their values. -/
theorem Takes.unique {p : Parser α} {w w' r r' : Text} {v v' : α} (h : p.Takes w r v)
    (h' : p.Takes w' r' v') (hs : w ++ r = w' ++ r') : w = w' ∧ r = r' ∧ v = v' := by
  have e := (h []).symm.trans (hs ▸ h' [])
  simp only [Outcome.ok.injEq, Cursor.mk.injEq, List.append_nil, List.reverse_inj] at e
  exact ⟨e.2.1, e.2.2, e.1⟩

/-- What is refused is not taken. -/
theorem Takes.not_refuses {p : Parser α} {w r : Text} {v : α} (h : p.Takes w r v) :
    ¬ p.Refuses (w ++ r) := by
  intro h'
  have e := (h []).symm.trans (h' [])
  simp at e

/-! ## Values -/

theorem takes_pure (v : α) (r : Text) : (pure v : Parser α).Takes [] r v := fun _ => rfl

theorem Takes.map {p : Parser α} {w r : Text} {v : α} (f : α → β) (h : p.Takes w r v) :
    (Parser.map f p).Takes w r (f v) := by
  intro past
  rw [Parser.map, h past, Outcome.map]

theorem Refuses.map {p : Parser α} {s : Text} (f : α → β) (h : p.Refuses s) :
    (Parser.map f p).Refuses s := by
  intro past
  rw [Parser.map, h past, Outcome.map]

theorem Reads.map {p : Parser α} {L : Text → α → Prop} {M : Text → β → Prop} {f : α → β}
    (h : p.Reads L) (hLM : ∀ w v, L w v → M w (f v)) : (Parser.map f p).Reads M := by
  intro s
  rcases h s with ⟨w, r, v, hs, ht, hL⟩ | hr
  · exact .inl ⟨w, r, f v, hs, ht.map f, hLM w v hL⟩
  · exact .inr (hr.map f)

theorem TakesAtLeast.map {p : Parser α} {w r : Text} (f : α → β) (h : p.TakesAtLeast w r) :
    (Parser.map f p).TakesAtLeast w r := by
  obtain ⟨x, r', v, hr, ht⟩ := h
  exact ⟨x, r', f v, hr, ht.map f⟩

/-! ## One after another -/

theorem Takes.bind {p : Parser α} {f : α → Parser β} {w w' r : Text} {v : α} {u : β}
    (hp : p.Takes w (w' ++ r) v) (hf : (f v).Takes w' r u) : (p >>= f).Takes (w ++ w') r u := by
  intro past
  rw [List.append_assoc, bind_apply, hp past]
  show f v _ = _
  rw [hf, List.reverse_append, List.append_assoc]

theorem Refuses.bind {p : Parser α} {s : Text} (f : α → Parser β) (h : p.Refuses s) :
    (p >>= f).Refuses s := by
  intro past
  rw [bind_apply, h past]

theorem Takes.bind_refuses {p : Parser α} {f : α → Parser β} {w r : Text} {v : α}
    (hp : p.Takes w r v) (hf : (f v).Refuses r) : (p >>= f).Refuses (w ++ r) := by
  intro past
  rw [bind_apply, hp past]
  exact hf _

theorem Reads.bind {p : Parser α} {f : α → Parser β} {L : Text → α → Prop}
    {M : α → Text → β → Prop} (hp : p.Reads L) (hf : ∀ v, (f v).Reads (M v)) :
    (p >>= f).Reads fun w u => ∃ a b v, w = a ++ b ∧ L a v ∧ M v b u := by
  intro s
  rcases hp s with ⟨a, r, v, rfl, ha, hL⟩ | hr
  · rcases hf v r with ⟨b, r, u, rfl, hb, hM⟩ | hr
    · exact .inl ⟨a ++ b, r, u, by simp, ha.bind hb, a, b, v, rfl, hL, hM⟩
    · exact .inr (ha.bind_refuses hr)
  · exact .inr (hr.bind f)

theorem reads_pure (v : α) : (pure v : Parser α).Reads fun w u => w = [] ∧ u = v :=
  fun s => .inl ⟨[], s, v, rfl, takes_pure v s, rfl, rfl⟩

theorem Takes.bind_pure {p : Parser α} {w r : Text} {v : α} (h : p.Takes w r v) (g : α → β) :
    (p >>= fun v => pure (g v)).Takes w r (g v) := by
  intro past
  rw [bind_apply, h past]
  rfl

theorem Takes.right {p : Parser α} {q : Parser β} {w w' r : Text} {v : α} {u : β}
    (hp : p.Takes w (w' ++ r) v) (hq : q.Takes w' r u) : (Parser.right p q).Takes (w ++ w') r u :=
  hp.bind hq

theorem Refuses.right {p : Parser α} {s : Text} (h : p.Refuses s) (q : Parser β) :
    (Parser.right p q).Refuses s :=
  h.bind _

theorem Takes.right_refuses {p : Parser α} {q : Parser β} {w r : Text} {v : α}
    (hp : p.Takes w r v) (hq : q.Refuses r) : (Parser.right p q).Refuses (w ++ r) :=
  hp.bind_refuses hq

theorem Takes.delimitedBy {p : Parser α} {q : Parser β} {o : Parser γ} {a w b r : Text} {u : α}
    {v : β} {x : γ} (hp : p.Takes a (w ++ (b ++ r)) u) (hq : q.Takes w (b ++ r) v)
    (ho : o.Takes b r x) : (Parser.delimitedBy p q o).Takes (a ++ (w ++ b)) r v := by
  exact Takes.bind (by rwa [List.append_assoc]) (hq.bind (ho.bind_pure fun _ => v))

theorem Reads.delimitedBy {p : Parser α} {q : Parser β} {o : Parser γ} {K : Text → α → Prop}
    {L : Text → β → Prop} {M : Text → γ → Prop} (hp : p.Reads K) (hq : q.Reads L)
    (ho : o.Reads M) : (Parser.delimitedBy p q o).Reads fun s v =>
      ∃ a w b u x, s = a ++ (w ++ b) ∧ K a u ∧ L w v ∧ M b x := by
  have h := hp.bind fun _ => hq.bind fun v => ho.bind fun _ => reads_pure v
  refine h.mono ?_
  rintro s v ⟨a, t, u, rfl, hK, w, b', v', rfl, hL, b, e, x, rfl, hM, rfl, rfl⟩
  exact ⟨a, w, b, u, x, by simp, hK, hL, hM⟩

/-! ## Choice -/

theorem Takes.either {p q : Parser α} {w r : Text} {v : α} (h : p.Takes w r v) :
    (Parser.either p q).Takes w r v := by
  intro past
  rw [Parser.either, h past]

theorem Refuses.either_takes {p q : Parser α} {w r : Text} {v : α} (hp : p.Refuses (w ++ r))
    (hq : q.Takes w r v) : (Parser.either p q).Takes w r v := by
  intro past
  rw [Parser.either, hp past, hq past]

theorem Refuses.either {p q : Parser α} {s : Text} (hp : p.Refuses s) (hq : q.Refuses s) :
    (Parser.either p q).Refuses s := by
  intro past
  rw [Parser.either, hp past, hq past]

theorem Reads.either {p q : Parser α} {L : Text → α → Prop} (hp : p.Reads L) (hq : q.Reads L) :
    (Parser.either p q).Reads L := by
  intro s
  rcases hp s with ⟨w, r, v, hs, ht, hL⟩ | hr
  · exact .inl ⟨w, r, v, hs, ht.either, hL⟩
  · rcases hq s with ⟨w, r, v, rfl, ht, hL⟩ | hr'
    · exact .inl ⟨w, r, v, rfl, hr.either_takes ht, hL⟩
    · exact .inr (hr.either hr')

theorem Takes.firstOf {p : Parser α} {ps : List (Parser α)} {w r : Text} {v : α}
    (h : p.Takes w r v) : (Parser.firstOf (p :: ps)).Takes w r v := by
  intro past
  rw [Parser.firstOf, h past]

theorem Refuses.firstOf_takes {p : Parser α} {ps : List (Parser α)} {w r : Text} {v : α}
    (hp : p.Refuses (w ++ r)) (hps : (Parser.firstOf ps).Takes w r v) :
    (Parser.firstOf (p :: ps)).Takes w r v := by
  intro past
  rw [Parser.firstOf, hp past]
  exact hps past

theorem Refuses.firstOf {p : Parser α} {ps : List (Parser α)} {s : Text} (hp : p.Refuses s)
    (hps : (Parser.firstOf ps).Refuses s) : (Parser.firstOf (p :: ps)).Refuses s := by
  intro past
  rw [Parser.firstOf, hp past]
  exact hps past

theorem firstOf_nil_refuses (s : Text) : (Parser.firstOf [] : Parser α).Refuses s := fun _ => rfl

theorem Takes.optional {p : Parser α} {w r : Text} {v : α} (h : p.Takes w r v) :
    (Parser.optional p).Takes w r (some v) := by
  intro past
  rw [Parser.optional, h past]

theorem Refuses.optional {p : Parser α} {r : Text} (h : p.Refuses r) :
    (Parser.optional p).Takes [] r none := by
  intro past
  rw [Parser.optional, List.nil_append, h past]
  rfl

theorem Takes.withDefault {p : Parser α} {w r : Text} {v : α} (h : p.Takes w r v) (d : α) :
    (Parser.withDefault d p).Takes w r v :=
  Takes.map (fun o : Option α => o.getD d) h.optional

theorem Refuses.withDefault {p : Parser α} {r : Text} (h : p.Refuses r) (d : α) :
    (Parser.withDefault d p).Takes [] r d :=
  Takes.map (fun o : Option α => o.getD d) h.optional

/-! ## Searching ahead -/

/-- **A search stops at the first place where its terminator succeeds.**  The terminator may fail
in front of it with any error. -/
theorem upTo_takes {p : Parser α} {w r : Text} {v : α}
    (hno : ∀ {u t : Text} {x : Char}, w = u ++ x :: t →
      ∀ past, ∃ e, p ⟨past, x :: (t ++ r)⟩ = .error e)
    (hyes : ∀ past, ∃ d, p ⟨past, r⟩ = .ok v d) :
    (upTo p).Takes w r (String.ofList w, v) := by
  have hscan : ∀ e past, scan p e past (w ++ r) = .ok (w, v) ⟨w.reverse ++ past, r⟩ := by
    intro e
    induction w with
    | nil =>
      intro past
      obtain ⟨d, hd⟩ := hyes past
      rw [List.nil_append, scan.eq_def, hd]
      rfl
    | cons x w ih =>
      intro past
      obtain ⟨e', he'⟩ := hno (u := []) rfl past
      have ih := ih (fun {u t y} hw => hno (u := x :: u) (by rw [hw]; rfl)) (x :: past)
      rw [List.cons_append, scan, he']
      simp only
      rw [ih, Outcome.map, List.reverse_cons, List.append_assoc]
      rfl
  intro past
  rw [upTo, hscan]
  rfl

/-! ## The end of the text -/

theorem Takes.ended {p : Parser α} {w : Text} {v : α} (h : p.Takes w [] v) :
    (Parser.ended p).Takes w [] v := by
  intro past
  show (p >>= _) _ = _
  rw [bind_apply, h past]
  rfl

theorem Takes.ended_error {p : Parser α} {w r : Text} {v : α} (h : p.Takes w r v) (hr : r ≠ [])
    (past : Text) :
    Parser.ended p ⟨past, w ++ r⟩ = .error (.expectEnd (String.ofList r)) := by
  cases r with
  | nil => exact absurd rfl hr
  | cons x r =>
    show (p >>= _) _ = _
    rw [bind_apply, h past]
    rfl

theorem Refuses.ended {p : Parser α} {s : Text} (h : p.Refuses s) :
    (Parser.ended p).Refuses s :=
  h.bind _

/-! ## Repetition

A round has to shorten the unread text, so the lemmas ask for a text taken that is not empty. -/

/-- A round that takes something shortens the unread text. -/
theorem length_lt_of_ne_nil {w : Text} (hw : w ≠ []) (r : Text) : r.length < (w ++ r).length := by
  have h := List.length_pos_iff.2 hw
  rw [List.length_append]
  omega

theorem many_stop {p : Parser α} {r : Text} (h : p.Refuses r) : Takes (many p) [] r [] := by
  intro past
  rw [many, List.nil_append, h past]
  rfl

theorem many_step {p : Parser α} {w w' r : Text} {v : α} {vs : List α}
    (hp : p.Takes w (w' ++ r) v) (hw : w ≠ []) (h : Takes (many p) w' r vs) :
    Takes (many p) (w ++ w') r (v :: vs) := by
  intro past
  have hlt := length_lt_of_ne_nil hw (w' ++ r)
  rw [many, List.append_assoc, hp past]
  show (if _ < _ then (many p _).map _ else _) = _
  rw [if_pos hlt, h]
  simp [Outcome.map]

theorem many1_stop {p : Parser α} {w r : Text} {v : α} (hp : p.Takes w r v) (hw : w ≠ [])
    (h : Refuses (many1 p) r) : Takes (many1 p) w r [v] := by
  intro past
  have hlt := length_lt_of_ne_nil hw r
  rw [many1, hp past]
  simp only
  rw [if_pos hlt, h]

theorem many1_step {p : Parser α} {w w' r : Text} {v : α} {vs : List α}
    (hp : p.Takes w (w' ++ r) v) (hw : w ≠ []) (h : Takes (many1 p) w' r vs) :
    Takes (many1 p) (w ++ w') r (v :: vs) := by
  intro past
  have hlt := length_lt_of_ne_nil hw (w' ++ r)
  rw [many1, List.append_assoc, hp past]
  simp only
  rw [if_pos hlt, h]
  simp

/-- Where no item follows, the items end.  A separator that stands there is left where it is. -/
theorem separatedTail_stop {p : Parser α} {separator : Parser β} {r : Text}
    (h : (Parser.right separator p).Refuses r) : Takes (separatedTail p separator) [] r [] := by
  intro past
  have hpast := h past
  rw [Parser.right, bind_apply] at hpast
  rw [separatedTail, List.nil_append]
  cases hm : separator ⟨past, r⟩ with
  | ok u c =>
    simp only [hm] at hpast ⊢
    rw [hpast]
    rfl
  | error e => rfl
  | diverge => simp [hm] at hpast

theorem separatedTail_step {p : Parser α} {separator : Parser β} {m w x r : Text} {u : β} {v : α}
    {vs : List α} (hm : separator.Takes m (w ++ (x ++ r)) u) (hne : m ≠ [])
    (hw : p.Takes w (x ++ r) v) (h : Takes (separatedTail p separator) x r vs) :
    Takes (separatedTail p separator) (m ++ (w ++ x)) r (v :: vs) := by
  intro past
  have hlt : (x ++ r).length < (m ++ (w ++ (x ++ r))).length :=
    Nat.lt_of_le_of_lt (by simp) (length_lt_of_ne_nil hne (w ++ (x ++ r)))
  have hs : m ++ (w ++ x) ++ r = m ++ (w ++ (x ++ r)) := by simp
  rw [separatedTail, hs, hm past]
  simp only
  rw [hw]
  simp only
  rw [if_pos hlt, h]
  simp [Outcome.map]

theorem Takes.separatedBy1 {p : Parser α} {separator : Parser β} {w x r : Text} {v : α}
    {vs : List α} (hw : p.Takes w (x ++ r) v) (h : Takes (separatedTail p separator) x r vs) :
    (Parser.separatedBy1 p separator).Takes (w ++ x) r (v :: vs) := by
  intro past
  rw [Parser.separatedBy1, List.append_assoc, hw past]
  simp only
  rw [h]
  simp [Outcome.map]

theorem Refuses.separatedBy1 {p : Parser α} {s : Text} (h : p.Refuses s) (separator : Parser β) :
    (Parser.separatedBy1 p separator).Refuses s := by
  intro past
  rw [Parser.separatedBy1, h past]

/-- Where no item follows, no row of items does. -/
theorem Refuses.right_separatedBy1 {p : Parser α} {q : Parser β} {separator : Parser γ} {s : Text}
    (h : (Parser.right p q).Refuses s) :
    (Parser.right p (Parser.separatedBy1 q separator)).Refuses s := by
  intro past
  have hpast := h past
  rw [Parser.right, bind_apply] at hpast ⊢
  rcases hp : p ⟨past, s⟩ with ⟨v, d⟩ | e | _
  · simp only [hp] at hpast ⊢
    rw [Parser.separatedBy1, hpast]
  · simpa only [hp, Outcome.error.injEq] using hpast
  · simp [hp] at hpast

/-! ## Characters -/

theorem satisfy_takes {f : Char → Bool} {x : Char} (h : f x = true) (r : Text) :
    (satisfy f).Takes [x] r x := by
  intro past
  simp [satisfy, h]

theorem satisfy_refuses {f : Char → Bool} {s : Text} (h : ∀ x ∈ s.head?, f x = false) :
    (satisfy f).Refuses s := by
  intro past
  cases s with
  | nil => rfl
  | cons x r => simp [satisfy, h x (by simp)]

theorem text_takes (s : String) (r : Text) : (text s).Takes s.toList r s := by
  intro past
  have h : stripBeginning? s.toList (s.toList ++ r) = some r := stripBeginning?_eq_some_iff.2 rfl
  simp [text, h, Cursor.moveTo]

theorem text_refuses {s : String} {t : Text} (h : ¬ s.toList <+: t) : (text s).Refuses t := by
  intro past
  cases hs : stripBeginning? s.toList t with
  | none => simp [text, hs]
  | some r => exact absurd ⟨r, (stripBeginning?_eq_some_iff.1 hs).symm⟩ h

end Parser

/-! ## Runs of characters

A repetition of `satisfy f` takes the whole run of characters of the class `f`, and the only thing
to know about what follows is that it does not continue the run. -/

/-- All of `w` belongs to the class `f`, and what follows it does not begin with a character of the
class. -/
structure Text.Run (f : Char → Bool) (w r : Text) : Prop where
  /-- The run consists of characters of the class. -/
  all : ∀ x ∈ w, f x = true
  /-- The run cannot be continued. -/
  stop : ∀ x ∈ r.head?, f x = false

namespace Text

/-- What holds of all characters of a text can be checked one by one. -/
theorem forall_mem_of_all {P : Char → Prop} [DecidablePred P] {s : Text}
    (h : s.all (fun x => decide (P x)) = true) : ∀ x ∈ s, P x := by
  intro x hx
  exact of_decide_eq_true (List.all_eq_true.1 h x hx)

theorem Run.tail {f : Char → Bool} {x : Char} {w r : Text} (h : Run f (x :: w) r) : Run f w r :=
  ⟨fun y hy => h.all y (List.mem_cons_of_mem x hy), h.stop⟩

/-- What does not continue the run may stand behind the text that follows it. -/
theorem Run.append_right {f : Char → Bool} {w r r' : Text} (h : Run f w r)
    (hr' : ∀ x ∈ r'.head?, f x = false) : Run f w (r ++ r') := by
  refine ⟨h.all, fun x hx => ?_⟩
  cases r with
  | nil => exact hr' x hx
  | cons y r => exact h.stop x hx

theorem run_takeWhile (f : Char → Bool) (s : Text) : Run f (s.takeWhile f) (s.dropWhile f) := by
  refine ⟨fun x hx => List.all_eq_true.1 List.all_takeWhile x hx, fun x hx => ?_⟩
  have h := List.head?_dropWhile_not f s
  rw [Option.mem_def.1 hx] at h
  exact h

/-- What belongs to the class can be continued to a run. -/
theorem exists_run_append {f : Char → Bool} {w : Text} (hw : ∀ x ∈ w, f x = true) (r : Text) :
    ∃ x r', r = x ++ r' ∧ Run f (w ++ x) r' := by
  induction r generalizing w with
  | nil => exact ⟨[], [], rfl, by simpa using hw, by simp⟩
  | cons y r ih =>
    by_cases hy : f y = true
    · have hw' : ∀ x ∈ w ++ [y], f x = true := by
        intro x hx
        rcases List.mem_append.1 hx with hx | hx
        · exact hw x hx
        · rwa [List.mem_singleton.1 hx]
      obtain ⟨x, r', rfl, hrun⟩ := ih hw'
      exact ⟨y :: x, r', rfl, by rwa [List.append_assoc] at hrun⟩
    · exact ⟨[], y :: r, rfl, by simpa using hw, by simpa using hy⟩

/-- Every text begins with a run, which may be empty. -/
theorem exists_run (f : Char → Bool) (s : Text) : ∃ w r, s = w ++ r ∧ Run f w r :=
  exists_run_append (w := []) (by simp) s

end Text

namespace Parser

/-- **A repetition takes the whole run.** -/
theorem many_satisfy_takes {f : Char → Bool} {w r : Text} (h : Text.Run f w r) :
    Takes (many (satisfy f)) w r w := by
  induction w with
  | nil => exact many_stop (satisfy_refuses h.stop)
  | cons x w ih => exact many_step (satisfy_takes (h.all x (by simp)) _) (by simp) (ih h.tail)

theorem many1_satisfy_refuses {f : Char → Bool} {s : Text} (h : ∀ x ∈ s.head?, f x = false) :
    Refuses (many1 (satisfy f)) s := by
  intro past
  rw [many1, satisfy_refuses h past]

theorem many1_satisfy_takes {f : Char → Bool} {w r : Text} (hw : w ≠ []) (h : Text.Run f w r) :
    Takes (many1 (satisfy f)) w r w := by
  induction w with
  | nil => exact absurd rfl hw
  | cons x w ih =>
    have hx : f x = true := h.all x (by simp)
    cases w with
    | nil => exact many1_stop (satisfy_takes hx r) (by simp) (many1_satisfy_refuses h.stop)
    | cons y w => exact many1_step (satisfy_takes hx _) (by simp) (ih (by simp) h.tail)

end Parser

end Backtrack
