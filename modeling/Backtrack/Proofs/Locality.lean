import Backtrack.Proofs.Composed.Grammar

/-!
# Only the unread text matters

What was read before a place cannot be seen from it, except by a parser that notes ranges.  Reading
the same text after something else gives the same value or the same error, and only the place
where reading stops lies further on.

The statement is an equation: a parser commutes with putting a text in front of everything that has
been read (`Parser.Local`).  In this form it is handed from the parts of a combinator to the whole
by rewriting, and in a loop by an induction on the length of the unread text, on which all rounds
of both runs agree.

* `Cursor.after t` and `Outcome.after t` put a text in front of what has been read;
* `Composed.isLocal` — every composed parser without ranges is local;
* `Outcome.Shifted n` — what this means for byte offsets.
-/

set_option autoImplicit false

namespace Backtrack

/-! ## Reading after something else -/

/-- The same place, with a text in front of what has been read.  The text is given in reverse, like
all that has been read. -/
def Cursor.after (t : Text) (c : Cursor) : Cursor := ⟨c.past ++ t, c.rest⟩

@[simp] theorem Cursor.rest_after (t : Text) (c : Cursor) : (c.after t).rest = c.rest := by
  rw [after]

@[simp] theorem Cursor.atEnd_after (t : Text) (c : Cursor) : (c.after t).atEnd = c.atEnd := rfl

theorem Cursor.moveTo_after (t : Text) (c : Cursor) (w r : Text) :
    (c.moveTo w r).after t = (c.after t).moveTo w r := by
  rw [after, moveTo, moveTo, after, List.append_assoc]

/-- The same outcome, with a text in front of what has been read. -/
def Outcome.after {α : Type} (t : Text) : Outcome α → Outcome α
  | .ok v c => .ok v (c.after t)
  | .error e => .error e
  | .diverge => .diverge

@[simp] theorem Outcome.ok_after {α : Type} (t : Text) (v : α) (c : Cursor) :
    (Outcome.ok v c).after t = .ok v (c.after t) :=
  rfl

@[simp] theorem Outcome.error_after {α : Type} (t : Text) (e : ParseError) :
    (Outcome.error e : Outcome α).after t = .error e :=
  rfl

@[simp] theorem Outcome.diverge_after {α : Type} (t : Text) :
    (Outcome.diverge : Outcome α).after t = .diverge :=
  rfl

theorem Outcome.map_after {α β : Type} (f : α → β) (t : Text) (o : Outcome α) :
    (o.map f).after t = (o.after t).map f := by
  cases o <;> rfl

namespace Parser

variable {α β : Type} {p q : Parser α}

/-- What has been read does not matter to the parser. -/
def Local (p : Parser α) : Prop := ∀ t c, p (c.after t) = (p c).after t

/-! ## Combinators -/

theorem Local.bind {f : α → Parser β} (hp : p.Local) (hf : ∀ v, (f v).Local) :
    (Parser.bind p f).Local := by
  intro t c
  rw [Parser.bind, Parser.bind, hp]
  cases p c with
  | ok v d => exact hf v t d
  | error e => rfl
  | diverge => rfl

theorem Local.map (hp : p.Local) (f : α → β) : (Parser.map f p).Local := by
  intro t c
  rw [Parser.map, Parser.map, hp, Outcome.map_after]

theorem Local.mapError (hp : p.Local) (f : ParseError → ParseError) : (mapError f p).Local := by
  intro t c
  rw [Parser.mapError, Parser.mapError, hp]
  cases p c <;> rfl

theorem Local.recover {f : ParseError → Parser α} (hp : p.Local) (hf : ∀ e, (f e).Local) :
    (recover p f).Local := by
  intro t c
  rw [Parser.recover, Parser.recover, hp]
  cases p c with
  | ok v d => rfl
  | error e => exact hf e t c
  | diverge => rfl

theorem Local.filterMap (hp : p.Local) (f : α → Option β) : (filterMap f p).Local := by
  intro t c
  rw [Parser.filterMap, Parser.filterMap, hp]
  cases p c with
  | ok v d =>
    simp only [Outcome.ok_after]
    cases f v <;> rfl
  | error e => rfl
  | diverge => rfl

theorem Local.either (hp : p.Local) (hq : q.Local) : (either p q).Local := by
  intro t c
  rw [Parser.either, Parser.either, hp, hq]
  cases p c with
  | ok v d => rfl
  | error e => cases q c <;> rfl
  | diverge => rfl

theorem Local.firstOf {ps : List (Parser α)} (hps : ∀ p ∈ ps, p.Local) : (firstOf ps).Local := by
  intro t c
  induction ps with
  | nil => rfl
  | cons p ps ih =>
    have hp : p.Local := hps p List.mem_cons_self
    have ih := ih fun p hp => hps p (List.mem_cons_of_mem _ hp)
    rw [Parser.firstOf, Parser.firstOf, hp]
    cases p c with
    | ok v d => rfl
    | error e => exact ih
    | diverge => rfl

theorem Local.optional (hp : p.Local) : (optional p).Local := by
  intro t c
  rw [Parser.optional, Parser.optional, hp]
  cases p c <;> rfl

theorem Local.followedBy {look : Parser β} (hp : p.Local) (hlook : look.Local) :
    (followedBy p look).Local := by
  intro t c
  rw [Parser.followedBy, Parser.followedBy, hp]
  cases p c with
  | ok v d =>
    simp only [Outcome.ok_after]
    rw [hlook]
    cases look d <;> rfl
  | error e => rfl
  | diverge => rfl

theorem Local.notFollowedBy {look : Parser β} (hp : p.Local) (hlook : look.Local) :
    (notFollowedBy p look).Local := by
  intro t c
  rw [Parser.notFollowedBy, Parser.notFollowedBy, hp]
  cases p c with
  | ok v d =>
    simp only [Outcome.ok_after]
    rw [hlook]
    cases look d <;> rfl
  | error e => rfl
  | diverge => rfl

/-! ## Parsers of characters -/

theorem satisfy_local (f : Char → Bool) : (satisfy f).Local := by
  rintro t ⟨past, rest⟩
  cases rest with
  | nil => rfl
  | cons x r =>
    simp only [satisfy, Cursor.after]
    cases f x <;> rfl

theorem text_local (s : String) : (text s).Local := by
  intro t c
  rw [text, text, Cursor.rest_after]
  cases stripBeginning? s.toList c.rest with
  | none => rfl
  | some r => rw [Outcome.ok_after, Cursor.moveTo_after]

theorem pattern_local (r : Pattern) : r.parser.Local := by
  intro t c
  obtain ⟨past, rest⟩ := c
  simp only [Pattern.parser, Cursor.after]
  cases r.find? rest with
  | none => rfl
  | some m =>
    simp only
    split
    · rw [Outcome.ok_after, Cursor.moveTo_after, Cursor.after]
    · rfl

theorem endOfInput_local : endOfInput.Local := by
  intro t c
  rw [endOfInput, endOfInput, Cursor.atEnd_after, Cursor.rest_after]
  cases c.atEnd <;> rfl

theorem Local.scan (hp : p.Local) (e : ParseError) (t past unread : Text) :
    scan p e (past ++ t) unread = (scan p e past unread).after t := by
  induction unread generalizing past with
  | nil =>
    rw [Parser.scan, Parser.scan,
      show (⟨past ++ t, []⟩ : Cursor) = .after t ⟨past, []⟩ from rfl, hp]
    cases p ⟨past, []⟩ <;> rfl
  | cons x r ih =>
    rw [Parser.scan, Parser.scan,
      show (⟨past ++ t, x :: r⟩ : Cursor) = .after t ⟨past, x :: r⟩ from rfl, hp]
    cases p ⟨past, x :: r⟩ with
    | ok v d => rfl
    | error e' =>
      simp only [Outcome.error_after]
      rw [← List.cons_append, ih, Outcome.map_after]
    | diverge => rfl

theorem Local.upTo (hp : p.Local) : (upTo p).Local := by
  intro t c
  rw [Parser.upTo, Parser.upTo, Outcome.map_after, ← hp.scan]
  rfl

/-! ## Loops -/

/-- **A loop is local if each round passes it on.**  For a round it may be taken for granted where
less is left to read. -/
theorem local_of_rounds {σ : Type} (loop : σ → Parser α)
    (h : ∀ s t c,
      (∀ s' d, d.rest.length < c.rest.length → loop s' (d.after t) = (loop s' d).after t) →
        loop s (c.after t) = (loop s c).after t) (s : σ) : (loop s).Local := by
  intro t c
  induction hn : c.rest.length using Nat.strongRecOn generalizing s c with
  | ind n ih => exact h s t c fun s' d hlt => ih d.rest.length (hn ▸ hlt) s' d rfl

theorem Local.many (hp : p.Local) : Local (many p) := by
  refine local_of_rounds (fun _ : Unit => Parser.many p) (fun _ t c ih => ?_) ()
  rw [Parser.many, Parser.many, hp]
  cases p c with
  | ok v d =>
    simp only [Outcome.ok_after, Cursor.rest_after]
    by_cases hlt : d.rest.length < c.rest.length
    · rw [if_pos hlt, if_pos hlt, ih () d hlt, Outcome.map_after]
    · rw [if_neg hlt, if_neg hlt, Outcome.diverge_after]
  | error e => rfl
  | diverge => rfl

theorem Local.many1 (hp : p.Local) : Local (many1 p) := by
  refine local_of_rounds (fun _ : Unit => Parser.many1 p) (fun _ t c ih => ?_) ()
  rw [Parser.many1, Parser.many1, hp]
  cases p c with
  | ok v d =>
    simp only [Outcome.ok_after, Cursor.rest_after]
    by_cases hlt : d.rest.length < c.rest.length
    · rw [if_pos hlt, if_pos hlt, ih () d hlt]
      cases Parser.many1 p d <;> rfl
    · rw [if_neg hlt, if_neg hlt, Outcome.diverge_after]
  | error e => rfl
  | diverge => rfl

theorem Local.separatedTail {separator : Parser β} (hp : p.Local) (hs : separator.Local) :
    Local (separatedTail p separator) := by
  refine local_of_rounds (fun _ : Unit => Parser.separatedTail p separator)
    (fun _ t c ih => ?_) ()
  rw [Parser.separatedTail, Parser.separatedTail, hs]
  cases separator c with
  | ok u d =>
    simp only [Outcome.ok_after]
    rw [hp]
    cases p d with
    | ok v d' =>
      simp only [Outcome.ok_after, Cursor.rest_after]
      by_cases hlt : d'.rest.length < c.rest.length
      · rw [if_pos hlt, if_pos hlt, ih () d' hlt, Outcome.map_after]
      · rw [if_neg hlt, if_neg hlt, Outcome.diverge_after]
    | error e => rfl
    | diverge => rfl
  | error e => rfl
  | diverge => rfl

theorem Local.separatedBy1 {separator : Parser β} (hp : p.Local) (hs : separator.Local) :
    (separatedBy1 p separator).Local := by
  intro t c
  rw [Parser.separatedBy1, Parser.separatedBy1, hp]
  cases p c with
  | ok v d =>
    simp only [Outcome.ok_after]
    rw [hp.separatedTail hs, Outcome.map_after]
  | error e => rfl
  | diverge => rfl

theorem Local.separatedBy {separator : Parser β} (hp : p.Local) (hs : separator.Local) :
    (separatedBy p separator).Local := by
  intro t c
  rw [Parser.separatedBy, Parser.separatedBy, hp]
  cases p c with
  | ok v d =>
    simp only [Outcome.ok_after]
    rw [hp.separatedTail hs, Outcome.map_after]
  | error e => rfl
  | diverge => rfl

theorem Local.leftLoop {symbol : Parser String} (hs : symbol.Local) (hp : p.Local) (tree : Tree α) :
    Local (leftLoop symbol p tree) := by
  refine local_of_rounds (Parser.leftLoop symbol p) (fun tree t c ih => ?_) tree
  rw [Parser.leftLoop, Parser.leftLoop, hs]
  cases symbol c with
  | ok op d =>
    simp only [Outcome.ok_after]
    rw [hp]
    cases p d with
    | ok v d' =>
      simp only [Outcome.ok_after, Cursor.rest_after]
      by_cases hlt : d'.rest.length < c.rest.length
      · rw [if_pos hlt, if_pos hlt, ih _ d' hlt]
      · rw [if_neg hlt, if_neg hlt, Outcome.diverge_after]
    | error e => rfl
    | diverge => rfl
  | error e => rfl
  | diverge => rfl

theorem Local.leftOperators {symbol : Parser String} (hs : symbol.Local) (hp : p.Local) :
    (leftOperators symbol p).Local := by
  intro t c
  rw [Parser.leftOperators, Parser.leftOperators, hp]
  cases p c with
  | ok v d => exact hs.leftLoop hp (.leaf v) t d
  | error e => rfl
  | diverge => rfl

theorem Local.rightOperators {symbol : Parser String} (hs : symbol.Local) (hp : p.Local) :
    Local (rightOperators symbol p) := by
  refine local_of_rounds (fun _ : Unit => Parser.rightOperators symbol p) (fun _ t c ih => ?_) ()
  rw [Parser.rightOperators, Parser.rightOperators, hp]
  cases p c with
  | ok v d =>
    simp only [Outcome.ok_after]
    rw [hs]
    cases symbol d with
    | ok op d' =>
      simp only [Outcome.ok_after, Cursor.rest_after]
      by_cases hlt : d'.rest.length < c.rest.length
      · rw [if_pos hlt, if_pos hlt, ih () d' hlt]
        cases Parser.rightOperators symbol p d' <;> rfl
      · rw [if_neg hlt, if_neg hlt, Outcome.diverge_after]
    | error e => rfl
    | diverge => rfl
  | error e => rfl
  | diverge => rfl

end Parser

/-! ## All of them -/

open Backtrack.Parser

/-- **What has been read does not matter to a composed parser without ranges.** -/
theorem Composed.isLocal {α : Type} {p : Parser α} (hp : Composed (· ≠ .ranged) p) : p.Local := by
  induction hp with
  | pure v => exact fun _ _ => rfl
  | mismatch => exact fun _ _ => rfl
  | fail _ e => exact fun _ _ => rfl
  | diverge => exact fun _ _ => rfl
  | bind _ _ ihp ihf => exact ihp.bind ihf
  | map f _ ih => exact ih.map f
  | mapError _ f _ ih => exact ih.mapError f
  | recover _ _ ihp ihf => exact ihp.recover ihf
  | filterMap f _ ih => exact ih.filterMap f
  | ranged h _ _ => exact absurd rfl h
  | satisfy f => exact satisfy_local f
  | text s => exact text_local s
  | pattern r => exact pattern_local r
  | either _ _ ihp ihq => exact ihp.either ihq
  | firstOf _ ih => exact Local.firstOf ih
  | optional _ ih => exact ih.optional
  | many _ ih => exact ih.many
  | many1 _ ih => exact ih.many1
  | separatedBy _ _ ihp ihs => exact ihp.separatedBy ihs
  | separatedBy1 _ _ ihp ihs => exact ihp.separatedBy1 ihs
  | followedBy _ _ ihp ihl => exact ihp.followedBy ihl
  | notFollowedBy _ _ ihp ihl => exact ihp.notFollowedBy ihl
  | upTo _ _ ih => exact ih.upTo
  | endOfInput _ => exact endOfInput_local
  | leftOperators _ _ ihs iho => exact ihs.leftOperators iho
  | rightOperators _ _ ihs iho => exact ihs.rightOperators iho
  | unroll _ depth ih => exact fun t c => ih _ t c

/-! ## In terms of offsets -/

/-- The outcomes are the same, but for the place where reading stops, which in the first is `n`
bytes further on. -/
inductive Outcome.Shifted {α : Type} (n : Nat) : Outcome α → Outcome α → Prop
  | ok (v : α) {c c' : Cursor} (hposition : c.position = n + c'.position)
      (hrest : c.rest = c'.rest) : Shifted n (.ok v c) (.ok v c')
  | error (e : ParseError) : Shifted n (.error e) (.error e)
  | diverge : Shifted n .diverge .diverge

theorem Outcome.shifted_after {α : Type} (t : Text) (o : Outcome α) :
    Shifted (Text.byteSize t) (o.after t) o := by
  cases o with
  | ok v c =>
    refine .ok v ?_ rfl
    rw [Cursor.position, Cursor.after, Text.byteSize_append, Nat.add_comm, Cursor.position]
  | error e => exact .error e
  | diverge => exact .diverge

/-- **An offset at which a text can be cut is the size of a beginning.** -/
theorem Text.eq_append_of_dropBytes? {n : Nat} {s r : Text} (h : Text.dropBytes? n s = some r) :
    ∃ w, s = w ++ r ∧ Text.byteSize w = n := by
  induction s generalizing n with
  | nil =>
    cases n with
    | zero =>
      cases h
      exact ⟨[], rfl, rfl⟩
    | succ n => cases h
  | cons x s ih =>
    cases n with
    | zero =>
      cases h
      exact ⟨[], rfl, rfl⟩
    | succ n =>
      rw [Text.dropBytes?] at h
      split at h
      · rename_i hle
        obtain ⟨w, rfl, hw⟩ := ih h
        refine ⟨x :: w, rfl, ?_⟩
        rw [Text.byteSize_cons, hw]
        omega
      · cases h

/-- The place at an offset, which is the beginning of what is left there after what is cut off. -/
theorem Cursor.exists_advance_eq_after {n : Nat} {s r : Text} (h : Text.dropBytes? n s = some r) :
    ∃ t, Text.byteSize t = n ∧ (Cursor.start s).advance n = (Cursor.start r).after t := by
  obtain ⟨w, rfl, rfl⟩ := Text.eq_append_of_dropBytes? h
  refine ⟨w.reverse, Text.byteSize_reverse w, ?_⟩
  rw [Cursor.advance, Cursor.start, Cursor.advanceFrom_byteSize, List.append_nil]
  rfl

theorem Parser.Local.shifted {α : Type} {p : Parser α} (hp : p.Local) {n : Nat} {s r : Text}
    (h : Text.dropBytes? n s = some r) :
    Outcome.Shifted n (p ((Cursor.start s).advance n)) (p.run r) := by
  obtain ⟨t, rfl, hadvance⟩ := Cursor.exists_advance_eq_after h
  rw [hadvance, hp]
  exact Outcome.shifted_after t _

/-- **Parsing depends only on the unread text.**  From an offset at which the text can be cut,
parsing gives what it gives from the beginning of the text that is left there: the same value with
an end that is as many bytes further on, or the same error.  This holds of every composed parser
without ranges, and of every grammar that uses none. -/
theorem parse_shifted :
    (∀ {α : Type} {p : Parser α}, Composed (· ≠ .ranged) p →
      ∀ {n : Nat} {s r : Text}, Text.dropBytes? n s = some r →
        Outcome.Shifted n (p ((Cursor.start s).advance n)) (p.run r)) ∧
    ∀ {defs : Definitions} {g : Grammar}, ¬ g.Uses defs .ranged →
      ∀ {n : Nat} {s r : Text}, Text.dropBytes? n s = some r →
        Outcome.Shifted n (g.parser defs ((Cursor.start s).advance n))
          ((g.parser defs).run r) := by
  refine ⟨fun hp _ _ _ h => hp.isLocal.shifted h, fun {defs g} hg _ _ _ h => ?_⟩
  have hp : Composed (· ≠ .ranged) (g.parser defs) := by
    refine g.parser_composed ?_
    rintro f hf rfl
    exact hg hf
  exact hp.isLocal.shifted h

/-- What follows a run of one character, by a definition that refers to itself. -/
def afterRun : Definitions :=
  [("tail", .either (.right (.text "é") (.ref "tail")) (.upTo .endOfInput))]

/-- From the third byte of a text, a composed parser fails with an error that quotes the text, and a
grammar reads to the end; both do so in the text from there on. -/
theorem shifted_afterRun :
    Text.dropBytes? 2 "ééxyz".toList = some "éxyz".toList ∧
    Outcome.Shifted 2 (Parser.ended (.text "é") ((Cursor.start "ééxyz".toList).advance 2))
      ((Parser.ended (.text "é")).run "éxyz".toList) ∧
    ¬ (Grammar.ref "tail").Uses afterRun .ranged ∧
    Outcome.Shifted 2
      ((Grammar.ref "tail").parser afterRun ((Cursor.start "ééxyz".toList).advance 2))
      (((Grammar.ref "tail").parser afterRun).run "éxyz".toList) := by
  have hcut : Text.dropBytes? 2 "ééxyz".toList = some "éxyz".toList := by decide
  have hp : Composed (· ≠ .ranged) (Parser.ended (.text "é")) := .ended (by decide) (.text _)
  have hg : ¬ (Grammar.ref "tail").Uses afterRun .ranged := by
    intro h
    rcases h.mem_ingredients with h | h
    · exact absurd h (by decide)
    · exact absurd h (by decide)
  exact ⟨hcut, parse_shifted.1 hp hcut, hg, parse_shifted.2 hg hcut⟩

end Backtrack
