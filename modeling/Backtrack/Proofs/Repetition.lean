import Backtrack.Proofs.Forward

/-!
# How a repetition ends

A repetition has no error of its own.  It stops in front of the first failure of its body, and the
only other way in which it can end is that its body does not: the body diverges at some place, or it
succeeds there without reading anything.

* `many_ne_error` — a repetition does not fail;
* `many_stops` — a repetition that succeeds stands where its body fails;
* `many_eq_diverge` — a repetition that diverges has reached a place at which its body is to blame;
* `many_eq_match_many1` — a repetition with at least one round differs only where there is none.
-/

set_option autoImplicit false

namespace Backtrack

namespace Parser

open Cursor

variable {α : Type} {p : Parser α} {c d : Cursor}

/-- A repetition does not fail. -/
theorem many_ne_error (p : Parser α) (c : Cursor) (e : ParseError) : many p c ≠ .error e := by
  fun_induction many p c with
  | case1 c v d hd hlt ih =>
    intro h
    cases hmany : many p d with
    | ok vs d' => simp [hmany, Outcome.map] at h
    | error e' =>
      simp only [hmany, Outcome.map, Outcome.error.injEq] at h
      exact ih (h ▸ hmany)
    | diverge => simp [hmany, Outcome.map] at h
  | case2 => simp
  | case3 => simp
  | case4 => simp

/-- **A repetition stops in front of a failure.** -/
theorem many_stops {vs : List α} (h : many p c = .ok vs d) : ∃ e, p d = .error e := by
  induction vs generalizing c with
  | nil =>
    rcases many_eq_ok h with ⟨he, -, rfl⟩ | ⟨v, d', vs', -, -, -, hvs⟩
    · exact he
    · simp at hvs
  | cons v vs ih =>
    rcases many_eq_ok h with ⟨-, hvs, -⟩ | ⟨v', d', vs', -, -, hmany, hvs⟩
    · simp at hvs
    · rw [List.cons.injEq] at hvs
      exact ih (hvs.2 ▸ hmany)

/-- **Where a repetition diverges, its body is to blame**: at a place that has been reached it
diverges itself, or it succeeds there without leaving less to read. -/
theorem many_eq_diverge (hp : p.Forward) (h : many p c = .diverge) :
    ∃ d, c.Reaches d ∧
      (p d = .diverge ∨ ∃ v d', p d = .ok v d' ∧ ¬ d'.rest.length < d.rest.length) := by
  fun_induction many p c with
  | case1 c v d hd hlt ih =>
    have hmany : many p d = .diverge := by
      cases hmany : many p d with
      | ok vs d' => simp [hmany, Outcome.map] at h
      | error e => simp [hmany, Outcome.map] at h
      | diverge => rfl
    obtain ⟨d', hreach, hblame⟩ := ih hmany
    exact ⟨d', (hp hd).trans hreach, hblame⟩
  | case2 c v d hd hlt => exact ⟨c, .refl c, .inr ⟨v, d, hd, hlt⟩⟩
  | case3 => simp at h
  | case4 c hc => exact ⟨c, .refl c, .inl hc⟩

/-- **A repetition is one of at least one round, or nothing.** -/
theorem many_eq_match_many1 (p : Parser α) (c : Cursor) :
    many p c = match many1 p c with
      | .ok vs d => .ok vs d
      | .error _ => .ok [] c
      | .diverge => .diverge := by
  fun_induction many p c with
  | case1 c v d hd hlt ih =>
    rw [many1, hd]
    simp only
    rw [ih, if_pos hlt]
    cases many1 p d <;> rfl
  | case2 c v d hd hlt =>
    rw [many1, hd]
    simp only
    rw [if_neg hlt]
  | case3 c e hd => rw [many1, hd]
  | case4 c hd => rw [many1, hd]

end Parser

end Backtrack
