import Backtrack.Proofs.Failing
import Backtrack.Proofs.Operator.Grouping

/-!
# Brackets do not matter

Parsers can be run one after another in pairs, in tuples or in lists, and any of these can stand
inside another; the same goes for a choice.  What the brackets change is how the values are grouped,
and nothing else.

* Running one after another is monadic (`LawfulMonad Parser`), and everything about sequences comes
  from that: `sequence_append` cuts a sequence in two, and `Row.parser_eq` takes all brackets away.
  `sequence_eq_error_iff` says whose error it is when a sequence fails.
* A choice drops the errors of its branches and reports a mismatch, so it is the same choice
  whichever of its branches are put together first (`firstOf_append`, `Branches.firstOf_parser_eq`).
  A single parser is no choice, and keeps its error.
* A parser in front of a choice can be put in front of each of its branches
  (`pair_firstOf_eq_ok_iff`).  This is about success only: if there are no branches or if the parser
  in front fails, then the errors differ.
-/

set_option autoImplicit false

namespace Backtrack

namespace Parser

variable {α β : Type} {c d : Cursor} {e : ParseError}

/-! ## Running one after another -/

theorem map_eq_bind (f : α → β) (p : Parser α) : Parser.map f p = p >>= fun v => pure (f v) := by
  funext c
  rw [Parser.map, bind_apply]
  rcases p c with ⟨v, d⟩ | e | _ <;> rfl

/-- **Running one after another is associative**, and reading nothing changes nothing. -/
instance : LawfulMonad Parser := by
  refine LawfulMonad.mk' Parser (fun p => ?_) (fun _ _ => rfl) (fun p f g => ?_)
  · funext c
    show (p >>= fun v => pure v) c = _
    rw [bind_apply]
    rcases p c with ⟨v, d⟩ | e | _ <;> rfl
  · funext c
    rw [bind_apply, bind_apply, bind_apply]
    rcases p c with ⟨v, d⟩ | e | _ <;> rfl

/-- **A sequence can be cut in two.** -/
theorem sequence_append (ps qs : List (Parser α)) :
    sequence (ps ++ qs) =
      Parser.map (fun (vs, us) => vs ++ us) (pair (sequence ps) (sequence qs)) := by
  rw [map_eq_bind, pair]
  induction ps with
  | nil => simp [sequence]
  | cons p ps ih => simp [sequence, ih]

/-- **A sequence fails with the error of the first parser that fails.** -/
theorem sequence_eq_error_iff {ps : List (Parser α)} :
    sequence ps c = .error e ↔ ∃ before p after vs d, ps = before ++ p :: after ∧
      sequence before c = .ok vs d ∧ p d = .error e := by
  constructor
  · intro h
    induction ps generalizing c with
    | nil => cases h
    | cons p ps ih =>
      rcases bind_eq_error h with hp | ⟨v, d, hp, hrest⟩
      · exact ⟨[], p, ps, [], c, rfl, rfl, hp⟩
      · rcases bind_eq_error hrest with hps | ⟨vs, d', -, hpure⟩
        · obtain ⟨before, q, after, vs, d', rfl, hbefore, hq⟩ := ih hps
          refine ⟨p :: before, q, after, v :: vs, d', rfl, ?_, hq⟩
          rw [sequence, bind_apply, hp]
          simp only
          rw [bind_apply, hbefore]
          rfl
        · cases hpure
  · rintro ⟨before, p, after, vs, d, rfl, hbefore, hp⟩
    rw [sequence_append, Parser.map, pair_apply, hbefore]
    simp only
    rw [sequence, bind_apply, hp]
    rfl

/-- What parsers run one after another yield, grouped as the parsers are. -/
inductive Grouped (α : Type) where
  /-- The value of a single parser. -/
  | one (v : α)
  /-- Two values. -/
  | pair (a b : Grouped α)
  /-- A fixed number of values. -/
  | tuple (vs : List (Grouped α))
  /-- Any number of values. -/
  | list (vs : List (Grouped α))

mutual

/-- The values in order. -/
def Grouped.values : Grouped α → List α
  | one v => [v]
  | pair a b => a.values ++ b.values
  | tuple vs => valuesAll vs
  | list vs => valuesAll vs

/-- The values of several groups in order. -/
def Grouped.valuesAll : List (Grouped α) → List α
  | [] => []
  | v :: vs => v.values ++ valuesAll vs

end

/-- Parsers to be run one after another, with brackets around some of them. -/
inductive Row (α : Type) where
  /-- A single parser. -/
  | one (p : Parser α)
  /-- One after the other. -/
  | pair (a b : Row α)
  /-- A fixed number, one after another. -/
  | tuple (rows : List (Row α))
  /-- Any number, one after another. -/
  | list (rows : List (Row α))

namespace Row

mutual

/-- The parser that runs what is in the brackets. -/
def parser : Row α → Parser (Grouped α)
  | one p => Parser.map .one p
  | pair a b => Parser.map (fun (u, v) => .pair u v) (Parser.pair a.parser b.parser)
  | tuple rows => Parser.map .tuple (sequence (parsers rows))
  | list rows => Parser.map .list (sequence (parsers rows))

/-- The parsers of several rows. -/
def parsers : List (Row α) → List (Parser (Grouped α))
  | [] => []
  | r :: rows => r.parser :: parsers rows

end

mutual

/-- The single parsers in order. -/
def parts : Row α → List (Parser α)
  | one p => [p]
  | pair a b => a.parts ++ b.parts
  | tuple rows => partsAll rows
  | list rows => partsAll rows

/-- The single parsers of several rows in order. -/
def partsAll : List (Row α) → List (Parser α)
  | [] => []
  | r :: rows => r.parts ++ partsAll rows

end

mutual

/-- **A row reads what its parts read in sequence**, with the same values in the same order and the
same error, however it is bracketed. -/
theorem parser_eq : ∀ r : Row α, Parser.map Grouped.values r.parser = sequence r.parts
  | one p => by simp [parser, parts, sequence, map_eq_bind, Grouped.values]
  | pair a b => by
    rw [parts, sequence_append, ← parser_eq a, ← parser_eq b, parser]
    simp [map_eq_bind, Parser.pair, Grouped.values]
  | tuple rows => by
    rw [parts, ← parsers_eq rows, parser]
    simp [map_eq_bind, Grouped.values]
  | list rows => by
    rw [parts, ← parsers_eq rows, parser]
    simp [map_eq_bind, Grouped.values]

theorem parsers_eq : ∀ rows : List (Row α),
    Parser.map Grouped.valuesAll (sequence (parsers rows)) = sequence (partsAll rows)
  | [] => by simp [parsers, partsAll, sequence, map_eq_bind, Grouped.valuesAll]
  | r :: rows => by
    rw [partsAll, sequence_append, ← parser_eq r, ← parsers_eq rows, parsers]
    simp [map_eq_bind, sequence, Parser.pair, Grouped.valuesAll]

end

end Row

/-! ## Choosing -/

/-- **A choice can be cut in two.** -/
theorem firstOf_append (ps qs : List (Parser α)) :
    firstOf (ps ++ qs) = either (firstOf ps) (firstOf qs) := by
  funext c
  induction ps with
  | nil =>
    rw [List.nil_append, either, firstOf]
    simp only
    rcases h : firstOf qs c with ⟨v, d⟩ | e | _
    · rfl
    · rw [firstOf_eq_error h]
    · rfl
  | cons p ps ih =>
    rw [List.cons_append, firstOf, either, firstOf]
    rcases p c with ⟨v, d⟩ | e | _
    · rfl
    · exact ih
    · rfl

/-- Parsers to choose from, with brackets around some of them. -/
inductive Branches (α : Type) where
  /-- A single parser. -/
  | one (p : Parser α)
  /-- One or the other. -/
  | either (a b : Branches α)
  /-- The first of several that succeeds. -/
  | firstOf (bs : List (Branches α))

namespace Branches

mutual

/-- The parser that chooses among what is in the brackets. -/
def parser : Branches α → Parser α
  | one p => p
  | either a b => Parser.either a.parser b.parser
  | firstOf bs => Parser.firstOf (parsers bs)

/-- The parsers of several choices. -/
def parsers : List (Branches α) → List (Parser α)
  | [] => []
  | b :: bs => b.parser :: parsers bs

end

mutual

/-- The single parsers in order. -/
def parts : Branches α → List (Parser α)
  | one p => [p]
  | either a b => a.parts ++ b.parts
  | firstOf bs => partsAll bs

/-- The single parsers of several choices in order. -/
def partsAll : List (Branches α) → List (Parser α)
  | [] => []
  | b :: bs => b.parts ++ partsAll bs

end

end Branches

/-- A parser that can only report a mismatch is a choice of its own. -/
theorem firstOf_singleton {p : Parser α} (h : ∀ {c e}, p c = .error e → e = .mismatch) :
    firstOf [p] = p := by
  funext c
  rw [firstOf]
  rcases hp : p c with ⟨v, d⟩ | e | _
  · rfl
  · rw [h hp]
    rfl
  · rfl

theorem either_eq_firstOf (p q : Parser α) : either p q = firstOf [p, q] := by
  funext c
  rw [either, firstOf, firstOf, firstOf]

namespace Branches

mutual

/-- Put into brackets of its own, a choice is the choice among its parts, also if it is a single
parser and no choice by itself. -/
theorem firstOf_parser_eq : ∀ b : Branches α, Parser.firstOf [b.parser] = Parser.firstOf b.parts
  | one p => rfl
  | either a b => by
    have hboth : Parser.firstOf ([a.parser] ++ [b.parser]) = Parser.firstOf (a.parts ++ b.parts) := by
      rw [firstOf_append, firstOf_append, firstOf_parser_eq a, firstOf_parser_eq b]
    rw [parser, firstOf_singleton either_eq_error, either_eq_firstOf, parts]
    exact hboth
  | firstOf bs => by rw [parser, firstOf_singleton firstOf_eq_error, firstOf_parsers_eq bs, parts]

theorem firstOf_parsers_eq : ∀ bs : List (Branches α),
    Parser.firstOf (parsers bs) = Parser.firstOf (partsAll bs)
  | [] => rfl
  | b :: bs => by
    have hcut : parsers (b :: bs) = [b.parser] ++ parsers bs := rfl
    rw [hcut, firstOf_append, firstOf_parser_eq b, firstOf_parsers_eq bs, partsAll, firstOf_append]

end

/-- **A choice is the choice among its parts**, however it is bracketed. -/
theorem parser_either (a b : Branches α) :
    (either a b).parser = Parser.firstOf (either a b).parts := by
  rw [← firstOf_parser_eq, parser, firstOf_singleton either_eq_error]

theorem parser_firstOf (bs : List (Branches α)) :
    (firstOf bs).parser = Parser.firstOf (firstOf bs).parts := by
  rw [← firstOf_parser_eq, parser, firstOf_singleton firstOf_eq_error]

end Branches

/-! ## A parser in front of a choice -/

/-- **A parser in front of a choice can be put in front of its branches.** -/
theorem pair_firstOf_eq_ok_iff {p : Parser β} {qs : List (Parser α)} {v : β × α} :
    pair p (firstOf qs) c = .ok v d ↔ firstOf (qs.map (pair p)) c = .ok v d := by
  induction qs with
  | nil =>
    rw [pair_apply]
    rcases p c with ⟨u, b⟩ | e | _ <;> simp [firstOf]
  | cons q qs ih =>
    rw [pair_apply] at ih
    rw [List.map_cons, firstOf, pair_apply, pair_apply]
    rcases hp : p c with ⟨u, b⟩ | e | _
    · simp only [hp, firstOf] at ih ⊢
      rcases q b with ⟨w, b'⟩ | e | _
      · rfl
      · exact ih
      · rfl
    · simp only [hp] at ih ⊢
      exact ih
    · rfl

/-- **Brackets do not matter.**  A sequence that is cut in two is one part after the other, with the
values of both, and it fails with the error of the first parser that fails.  So however parsers that
are run one after another are bracketed, they read the same text, yield the same values in the same
order and fail with the same error.  A choice that is cut in two is one part or the other, so however
a choice is bracketed, it is the same.  And a parser in front of a choice succeeds where the choice
among its branches with the parser in front of each does, with the same value and at the same
place. -/
theorem sequence_choice_bracketing {α β : Type} :
    (∀ ps qs : List (Parser α), sequence (ps ++ qs) =
      Parser.map (fun (vs, us) => vs ++ us) (pair (sequence ps) (sequence qs))) ∧
    (∀ (ps : List (Parser α)) (c : Cursor) (e : ParseError), sequence ps c = .error e ↔
      ∃ before p after vs d, ps = before ++ p :: after ∧ sequence before c = .ok vs d ∧
        p d = .error e) ∧
    (∀ r : Row α, Parser.map Grouped.values r.parser = sequence r.parts) ∧
    (∀ ps qs : List (Parser α), firstOf (ps ++ qs) = either (firstOf ps) (firstOf qs)) ∧
    (∀ a b : Branches α, (Branches.either a b).parser = firstOf (Branches.either a b).parts) ∧
    (∀ bs : List (Branches α), (Branches.firstOf bs).parser = firstOf (Branches.firstOf bs).parts) ∧
    ∀ (p : Parser β) (qs : List (Parser α)) (c d : Cursor) (v : β × α),
      pair p (firstOf qs) c = .ok v d ↔ firstOf (qs.map (pair p)) c = .ok v d :=
  ⟨sequence_append, fun _ _ _ => sequence_eq_error_iff, Row.parser_eq, firstOf_append,
    Branches.parser_either, Branches.parser_firstOf, fun _ _ _ _ _ => pair_firstOf_eq_ok_iff⟩

end Parser

end Backtrack
