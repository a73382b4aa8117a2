import Backtrack.Console.Transcript
import Backtrack.Proofs.Arithmetic.Recognition
import Backtrack.Proofs.Itemized
import Backtrack.Proofs.Shell.Resolution

/-!
# Lines with something left

The console reads a line to its end, or it allows that something is left.  One would expect the two
to differ in nothing else: what is left is an error in the one case and is passed over in the other.
That is not a matter of course.  A list searches for the ends of its items and requires the end of
the input to be one of them, and a command line makes errors of its own; an error that came from
inside the grammar could look like one that came from the end of the line.

* `Choice.errorKinds` — the kinds of errors that arise inside a grammar;
* `Choice.parser_run` — no others do, and every line is answered;
* `answer_allowTrailing` — so the answers differ exactly where something is left.
-/

set_option autoImplicit false

namespace Backtrack

namespace Parser

variable {α : Type} {p : Parser α} {c : Cursor}

/-- A parser that reads a language succeeds, or it finds a mismatch. -/
theorem Reads.run {L : Text → α → Prop} (h : p.Reads L) (s : Text) :
    (∃ v d, p.run s = .ok v d) ∨ p.run s = .error .mismatch := by
  rcases h s with ⟨w, r, v, rfl, htakes, -⟩ | hrefuses
  · exact .inl ⟨v, _, htakes []⟩
  · exact .inr (hrefuses [])

/-- **Requiring the end changes only what is left.**  A parser that has no such error of its own
reports one exactly where it succeeds with something left, and otherwise it does what it does
without the requirement. -/
theorem ended_differs (hreturns : p c ≠ .diverge)
    (hend : ∀ {e : ParseError}, p c = .error e → e.kind ≠ .expectEnd) :
    (∀ rest, ended p c = .error (.expectEnd rest) ↔
      ∃ v d, p c = .ok v d ∧ d.rest ≠ [] ∧ rest = String.ofList d.rest) ∧
    ((∃ rest, ended p c = .error (.expectEnd rest)) ∨ ended p c = p c) := by
  cases hp : p c with
  | ok v d =>
    rcases ended_of_ok hp with ⟨hrest, hended⟩ | ⟨hrest, hended⟩
    · refine ⟨fun rest => ⟨fun h => ?_, ?_⟩, .inr hended⟩
      · cases hended.symm.trans h
      · rintro ⟨v', d', h, hne, -⟩
        cases h
        exact absurd hrest hne
    · refine ⟨fun rest => ⟨fun h => ?_, ?_⟩, .inl ⟨_, hended⟩⟩
      · cases hended.symm.trans h
        exact ⟨v, d, rfl, hrest, rfl⟩
      · rintro ⟨v', d', h, -, rfl⟩
        cases h
        exact hended
  | error e =>
    have hended := ended_of_error hp
    refine ⟨fun rest => ⟨fun h => ?_, ?_⟩, .inr hended⟩
    · cases hended.symm.trans h
      exact absurd rfl (hend hp)
    · rintro ⟨v, d, h, -⟩
      cases h
  | diverge => exact absurd hp hreturns

end Parser

namespace Console

/-- The kinds of errors with which a line can be answered when something may be left of it. -/
def Choice.errorKinds : Choice → List ErrorKind
  | expression | calculator => [.mismatch]
  | list => []
  | shell => [.mismatch, .custom]

theorem Choice.not_mem_errorKinds (choice : Choice) :
    .expectEnd ∉ choice.errorKinds ∧ .expectTerminator ∉ choice.errorKinds := by
  cases choice <;> decide

/-- **Every line is answered**, with a value or with an error that the grammar has. -/
theorem Choice.parser_run (choice : Choice) (line : Text) :
    (∃ value c, choice.parser.run line = .ok value c) ∨
      ∃ e, choice.parser.run line = .error e ∧ e.kind ∈ choice.errorKinds := by
  cases choice with
  | expression =>
    have hreads : (parser expression).Reads fun _ _ => True :=
      Arithmetic.expr_reads.map fun _ _ _ => trivial
    exact (hreads.run line).imp_right fun h => ⟨.mismatch, h, List.mem_singleton_self _⟩
  | calculator =>
    have hvalue : Arithmetic.calculator.Reads fun _ _ => True :=
      Arithmetic.expr_reads.map fun _ _ _ => trivial
    have hreads : (parser calculator).Reads fun _ _ => True := hvalue.map fun _ _ _ => trivial
    exact (hreads.run line).imp_right fun h => ⟨.mismatch, h, List.mem_singleton_self _⟩
  | list =>
    obtain ⟨w, r, rfl, hlegal⟩ := Itemized.exists_legalUpTo line
    have htakes := (Itemized.list_takes hlegal).map Itemized.render
    exact .inl ⟨_, _, htakes []⟩
  | shell =>
    by_cases hpath : Shell.leadingPath line = []
    · exact .inr ⟨.mismatch, Shell.command_run_of_nil hpath, by decide⟩
    · cases hfind : Shell.standard.find? (Shell.leadingPath line) with
      | none =>
        exact .inr ⟨_, Shell.command_run_of_none hpath hfind,
          List.mem_cons_of_mem _ (List.mem_singleton_self _)⟩
      | some target =>
        obtain ⟨args, w, r, -, hrun⟩ := Shell.command_run_of_some hpath hfind
        exact .inl ⟨_, _, hrun⟩

theorem Choice.parser_run_ne_diverge (choice : Choice) (line : Text) :
    choice.parser.run line ≠ .diverge := by
  rcases choice.parser_run line with ⟨value, c, h⟩ | ⟨e, h, -⟩
  · simp [h]
  · simp [h]

/-- An error that a line is answered with while something may be left of it is not about that. -/
theorem Choice.kind_ne_expectEnd (choice : Choice) {line : Text} {e : ParseError}
    (h : choice.parser.run line = .error e) : e.kind ≠ .expectEnd := by
  intro hkind
  rcases choice.parser_run line with ⟨value, c, hok⟩ | ⟨e', he', hmem⟩
  · cases hok.symm.trans h
  · cases he'.symm.trans h
    exact choice.not_mem_errorKinds.1 (hkind ▸ hmem)

/-- **To allow that something is left only turns errors about the end into values.**  With that
allowed, a line is answered with a value or with an error of a kind that the grammar has, and these
are not about the end of the line or of an item.  Without it, there is an error about the end
exactly for the lines of which something is left, and the error says what; all other lines are
answered as before. -/
theorem answer_allowTrailing (choice : Choice) (line : Text) :
    ((∃ value c, answer choice true line = .ok value c) ∨
      ∃ e, answer choice true line = .error e ∧ e.kind ∈ choice.errorKinds ∧
        e.kind ≠ .expectEnd ∧ e.kind ≠ .expectTerminator) ∧
    (∀ rest, answer choice false line = .error (.expectEnd rest) ↔
      ∃ value c, answer choice true line = .ok value c ∧ c.rest ≠ [] ∧
        rest = String.ofList c.rest) ∧
    ((∃ rest, answer choice false line = .error (.expectEnd rest)) ∨
      answer choice false line = answer choice true line) := by
  obtain ⟨hend, hterminator⟩ := choice.not_mem_errorKinds
  refine ⟨(choice.parser_run line).imp_right fun h => ?_,
    Parser.ended_differs (choice.parser_run_ne_diverge line) fun {e} => choice.kind_ne_expectEnd⟩
  obtain ⟨e, he, hkind⟩ := h
  exact ⟨e, he, hkind, fun h => hend (h ▸ hkind), fun h => hterminator (h ▸ hkind)⟩

end Console

end Backtrack
