import Backtrack.ParseError
import Backtrack.Range

/-!
# Parsers

A parser is a function from a place in a text to an outcome: a value and the place where reading
stopped, or the reason why there is none.  Cursors are values, so a parser that fails has moved
nothing, and whoever called it still holds the place from which to try something else; that is all
there is to backtracking.

The third outcome, `diverge`, stands for a parse that has no end of its own.  It would go on for
ever, since a repetition has a body that succeeds without reading anything, or a grammar refers to
itself before it has read a character; or it is broken off, since more memory is asked for than
there can be.  No combinator recovers from it.

* `Outcome` and `Parser`, with the `Monad` structure by which parsers are run one after another;
* `fail`, `ofExcept`, `mapError` and `recover`, which make errors, change them and act on them;
* `filterMap` and `filter`, which turn a value that is not wanted into a mismatch;
* `ranged`, which notes where a value was read.
-/

set_option autoImplicit false

namespace Backtrack

/-- What comes of running a parser. -/
inductive Outcome (α : Type) where
  /-- A value was read, and reading stopped at `cursor`. -/
  | ok (value : α) (cursor : Cursor)
  /-- The text at hand was refused. -/
  | error (e : ParseError)
  /-- Reading would go on for ever, or it is broken off. -/
  | diverge
deriving DecidableEq, Repr

/-- Change the value of a successful outcome. -/
def Outcome.map {α β : Type} (f : α → β) : Outcome α → Outcome β
  | .ok v c => .ok (f v) c
  | .error e => .error e
  | .diverge => .diverge

/-- A parser of values of type `α`. -/
def Parser (α : Type) : Type := Cursor → Outcome α

namespace Parser

variable {α β : Type}

/-- Run a parser on a whole text, from its beginning. -/
def run (p : Parser α) (source : Text) : Outcome α := p (.start source)

/-- Read nothing and yield a value. -/
protected def pure (v : α) : Parser α := fun c => .ok v c

/-- Read nothing and fail. -/
def fail (e : ParseError) : Parser α := fun _ => .error e

/-- Fail because the input does not match. -/
def mismatch : Parser α := fail .mismatch

/-- Read nothing, and yield the value or fail with the error at hand. -/
def ofExcept : Except ParseError α → Parser α
  | .ok v => Parser.pure v
  | .error e => fail e

/-- Run `p`, then from where it stopped the parser chosen by its value. -/
protected def bind (p : Parser α) (f : α → Parser β) : Parser β := fun c =>
  match p c with
  | .ok v c' => f v c'
  | .error e => .error e
  | .diverge => .diverge

instance : Monad Parser where
  pure := Parser.pure
  bind := Parser.bind

/-- Change the value that a parser yields. -/
protected def map (f : α → β) (p : Parser α) : Parser β := fun c => (p c).map f

/-- Run `p` and drop its value. -/
def ignore (p : Parser α) : Parser Unit := Parser.map (fun _ => ()) p

/-! ## Errors -/

/-- Change the error with which a parser fails. -/
def mapError (f : ParseError → ParseError) (p : Parser α) : Parser α := fun c =>
  match p c with
  | .error e => .error (f e)
  | r => r

/-- Where `p` fails, run from the same place the parser chosen by its error. -/
def recover (p : Parser α) (f : ParseError → Parser α) : Parser α := fun c =>
  match p c with
  | .error e => f e c
  | r => r

/-! ## Values that are not wanted -/

/-- Keep what `f` makes of the value, and count a value of which it makes nothing as a
mismatch. -/
def filterMap (f : α → Option β) (p : Parser α) : Parser β := fun c =>
  match p c with
  | .ok v c' =>
    match f v with
    | some w => .ok w c'
    | none => .error .mismatch
  | .error e => .error e
  | .diverge => .diverge

/-- Count a value that does not satisfy `f` as a mismatch. -/
def filter (f : α → Bool) (p : Parser α) : Parser α :=
  filterMap (fun v => if f v then some v else none) p

/-- Refuse the empty string. -/
def notEmpty (p : Parser String) : Parser String := filter (fun s => !s.isEmpty) p

/-! ## Places -/

/-- Note the range of text from which a value was read. -/
def ranged (p : Parser α) : Parser (Ranged α) := fun c =>
  match p c with
  | .ok v c' => .ok ⟨v, .between c c'⟩ c'
  | .error e => .error e
  | .diverge => .diverge

/-! ## Unfolding -/

@[simp] theorem pure_apply (v : α) (c : Cursor) : (pure v : Parser α) c = .ok v c := rfl

@[simp] theorem fail_apply (e : ParseError) (c : Cursor) : (fail e : Parser α) c = .error e := rfl

theorem bind_apply (p : Parser α) (f : α → Parser β) (c : Cursor) :
    (p >>= f) c = match p c with
      | .ok v c' => f v c'
      | .error e => .error e
      | .diverge => .diverge := rfl

end Parser

end Backtrack
