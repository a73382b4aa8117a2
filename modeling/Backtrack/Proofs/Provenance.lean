import Backtrack.Proofs.Failing

/-!
# Where errors come from

Most failures say only that the text did not match.  The two kinds of error that say more quote the
text at some place, and by the time they are reported the parser that stood there may be deep inside
others, which have read something before it and perhaps tried something else.  Nevertheless, what is
quoted is always the text at a place that has been reached, and one of the two combinators that
quote has been used.

* `ParseError.Located` — what an error that is reported at a place can be;
* `Composed.located` — the errors of composed parsers are such, if no parser makes or changes errors
  on its own account;
* `error_located` — the same for parsers and for grammars with definitions.
-/

set_option autoImplicit false

namespace Backtrack

/-- What an error can be, if it was made at `c` or ahead of it with no more than the allowed
features.  An error that quotes the text quotes what stands there from some offset on, and the
offset is not in front of `c`. -/
inductive ParseError.Located (allowed : Feature → Prop) (c : Cursor) : ParseError → Prop
  /-- The text did not match. -/
  | mismatch : Located allowed c .mismatch
  /-- The input should have ended at the offset `n`, and it did not. -/
  | expectEnd {n : Nat} {r : Text} (h : allowed .endOfInput) (hle : c.position ≤ n)
      (hr : Text.dropBytes? n c.source = some r) (hne : r ≠ []) :
      Located allowed c (.expectEnd (String.ofList r))
  /-- The search for a terminator began at the offset `n`, and there was none. -/
  | expectTerminator {n : Nat} {r : Text} (h : allowed .upTo) (hle : c.position ≤ n)
      (hr : Text.dropBytes? n c.source = some r) :
      Located allowed c (.expectTerminator (String.ofList r))

namespace ParseError

variable {allowed : Feature → Prop} {c d : Cursor} {e : ParseError}

/-- What comes from a place comes from every place from which that is reached. -/
theorem Located.of_reaches (h : e.Located allowed d) (hreach : c.Reaches d) :
    e.Located allowed c := by
  have hahead := hreach.ahead
  cases h with
  | mismatch => exact .mismatch
  | expectEnd hallowed hle hr hne =>
    rw [hahead.source_eq] at hr
    exact .expectEnd hallowed (Nat.le_trans hahead.position_le hle) hr hne
  | expectTerminator hallowed hle hr =>
    rw [hahead.source_eq] at hr
    exact .expectTerminator hallowed (Nat.le_trans hahead.position_le hle) hr

theorem Located.kind_ne_custom (h : e.Located allowed c) : e.kind ≠ .custom := by
  cases h <;> simp [kind]

end ParseError

open Backtrack.Parser

/-- **The errors of a composed parser are located**, if it does without the combinators that make
errors or change them.  A part that fails stands at a place that has been reached, since the parts
in front of it move forward. -/
theorem Composed.located {allowed : Feature → Prop} (hfailure : ¬ allowed .failure) {α : Type}
    {p : Parser α} (hp : Composed allowed p) :
    ∀ {c : Cursor} {e : ParseError}, p c = .error e → e.Located allowed c := by
  induction hp with
  | pure v => intro c e h; cases h
  | mismatch => intro c e h; cases h; exact .mismatch
  | fail hallowed e => exact absurd hallowed hfailure
  | diverge => intro c e h; cases h
  | bind hp _ ihp ihf =>
    intro c e h
    rcases bind_eq_error h with he | ⟨v, d, hv, he⟩
    · exact ihp he
    · exact (ihf v he).of_reaches (hp.forward hv)
  | map f _ ih => exact fun h => ih (map_eq_error h)
  | mapError hallowed f _ _ => exact absurd hallowed hfailure
  | recover _ _ _ ihf =>
    intro c e h
    obtain ⟨e', -, he⟩ := recover_eq_error h
    exact ihf e' he
  | filterMap f _ ih =>
    intro c e h
    rcases filterMap_eq_error h with he | rfl
    · exact ih he
    · exact .mismatch
  | ranged _ _ ih => exact fun h => ih (ranged_eq_error h)
  | satisfy f => intro c e h; rw [satisfy_eq_error h]; exact .mismatch
  | text s => intro c e h; rw [text_eq_error h]; exact .mismatch
  | pattern r => intro c e h; rw [pattern_eq_error h]; exact .mismatch
  | either _ _ _ _ => intro c e h; rw [either_eq_error h]; exact .mismatch
  | firstOf _ _ => intro c e h; rw [firstOf_eq_error h]; exact .mismatch
  | optional _ _ => exact fun h => absurd h (optional_ne_error _ _ _)
  | many _ _ => exact fun h => absurd h (many_ne_error _ _ _)
  | many1 _ ih => exact fun h => ih (many1_eq_error h)
  | separatedBy _ _ _ _ => exact fun h => absurd h (separatedBy_ne_error _ _ _ _)
  | separatedBy1 _ _ ihp _ => exact fun h => ihp (separatedBy1_eq_error h)
  | followedBy hp _ ihp ihlook =>
    intro c e h
    rcases followedBy_eq_error h with he | ⟨v, d, hv, he⟩
    · exact ihp he
    · exact (ihlook he).of_reaches (hp.forward hv)
  | notFollowedBy _ _ ihp _ =>
    intro c e h
    rcases notFollowedBy_eq_error h with he | rfl
    · exact ihp he
    · exact .mismatch
  | upTo hallowed _ _ =>
    intro c e h
    rw [upTo_eq_error h]
    exact .expectTerminator hallowed (Nat.le_refl _) c.dropBytes?_position
  | endOfInput hallowed =>
    intro c e h
    obtain ⟨hne, rfl⟩ := endOfInput_eq_error h
    exact .expectEnd hallowed (Nat.le_refl _) c.dropBytes?_position hne
  | leftOperators _ _ _ iho => exact fun h => iho (leftOperators_eq_error h)
  | rightOperators _ _ _ iho => exact fun h => iho (rightOperators_eq_error h)
  | unroll _ depth ih => exact fun h => ih _ h

/-- **Errors tell where they come from.**  A parser that neither makes nor changes errors reports a
mismatch, or text that is left where it required the end of the input, or text in which it searched
for a terminator in vain; the text is what stands in the source from some offset on that is not in
front of the place where the parser began.  An error with a message of its own never arises.  This
holds of every composed parser, and of every grammar with definitions that refer to each other as
they like; and an error that quotes the text shows that the combinator which quotes is used. -/
theorem error_located :
    (∀ {allowed : Feature → Prop}, ¬ allowed .failure →
      ∀ {α : Type} {p : Parser α}, Composed allowed p →
        ∀ {c : Cursor} {e : ParseError}, p c = .error e →
          e.Located allowed c ∧ e.kind ≠ .custom) ∧
    ∀ {defs : Definitions} {g : Grammar}, ¬ g.Uses defs .failure →
      ∀ {c : Cursor} {e : ParseError}, g.parser defs c = .error e →
        e.Located (g.Uses defs) c ∧ e.kind ≠ .custom := by
  have hcomposed : ∀ {allowed : Feature → Prop}, ¬ allowed .failure →
      ∀ {α : Type} {p : Parser α}, Composed allowed p →
        ∀ {c : Cursor} {e : ParseError}, p c = .error e →
          e.Located allowed c ∧ e.kind ≠ .custom := by
    intro allowed hfailure α p hp c e h
    have hlocated := hp.located hfailure h
    exact ⟨hlocated, hlocated.kind_ne_custom⟩
  refine ⟨hcomposed, fun {defs g} hfailure c e h => ?_⟩
  have hg : Composed (g.Uses defs) (g.parser defs) := g.parser_composed fun _ hf => hf
  exact hcomposed hfailure hg h

/-- From the middle of a text, a composed parser finds no terminator behind what it has read, and a
grammar with a definition that refers to itself is left with text that it cannot read. -/
theorem error_located_nestedQuotes :
    (Parser.right (.text "é") (.upTo (.char ';')) ⟨['x'], "éab".toList⟩ =
        .error (.expectTerminator "ab") ∧
      (ParseError.expectTerminator "ab").Located (· = .upTo) ⟨['x'], "éab".toList⟩) ∧
    ¬ (Grammar.ended (.ref "nested")).Uses nestedQuotes .failure ∧
    (Grammar.ended (.ref "nested")).parser nestedQuotes ⟨['x'], "«é»!".toList⟩ =
        .error (.expectEnd "!") ∧
      (ParseError.expectEnd "!").Located ((Grammar.ended (.ref "nested")).Uses nestedQuotes)
        ⟨['x'], "«é»!".toList⟩ := by
  have hp : Composed (· = .upTo) (Parser.right (.text "é") (.upTo (.char ';'))) :=
    .right (.text _) (.upTo (by decide) (.satisfy _))
  have h : Parser.right (.text "é") (.upTo (.char ';')) ⟨['x'], "éab".toList⟩ =
      .error (.expectTerminator "ab") := rfl
  have hg : ¬ (Grammar.ended (.ref "nested")).Uses nestedQuotes .failure := by
    intro h
    rcases h.mem_ingredients with h | h
    · exact absurd h (by decide)
    · exact absurd h (by decide)
  have h' : (Grammar.ended (.ref "nested")).parser nestedQuotes ⟨['x'], "«é»!".toList⟩ =
      .error (.expectEnd "!") := rfl
  exact ⟨⟨h, (error_located.1 (by decide) hp h).1⟩, hg, h', (error_located.2 hg h').1⟩

end Backtrack
