import Backtrack.Parser.Basic

/-!
# Repetition

A repetition goes on for as long as its body succeeds, and then stands where the last success
ended: what a failing attempt had read is given back.  In the separated form an attempt is a
separator together with the item after it, so a separator that no item follows is not read.

Each round has to shorten the unread text.  A body that succeeds without doing so would succeed
again at the same place for ever, and the outcome is `diverge`.  That check is also what makes the
recursion well-founded.
-/

set_option autoImplicit false

namespace Backtrack

namespace Parser

variable {α β : Type}

/-- Run `p` as often as it succeeds. -/
def many (p : Parser α) (c : Cursor) : Outcome (List α) :=
  match p c with
  | .ok v c' =>
    if c'.rest.length < c.rest.length then (many p c').map (v :: ·) else .diverge
  | .error _ => .ok [] c
  | .diverge => .diverge
termination_by c.rest.length

/-- Run `p` as often as it succeeds, which has to be at least once. -/
def many1 (p : Parser α) (c : Cursor) : Outcome (List α) :=
  match p c with
  | .ok v c' =>
    if c'.rest.length < c.rest.length then
      match many1 p c' with
      | .ok vs c'' => .ok (v :: vs) c''
      | .error _ => .ok [v] c'
      | .diverge => .diverge
    else .diverge
  | .error e => .error e
  | .diverge => .diverge
termination_by c.rest.length

/-- The items that follow an item which ended at `c`, each after a separator. -/
def separatedTail (p : Parser α) (separator : Parser β) (c : Cursor) : Outcome (List α) :=
  match separator c with
  | .ok _ c' =>
    match p c' with
    | .ok v c'' =>
      if c''.rest.length < c.rest.length then (separatedTail p separator c'').map (v :: ·)
      else .diverge
    | .error _ => .ok [] c
    | .diverge => .diverge
  | .error _ => .ok [] c
  | .diverge => .diverge
termination_by c.rest.length

/-- One or more items with a separator between any two. -/
def separatedBy1 (p : Parser α) (separator : Parser β) : Parser (List α) := fun c =>
  match p c with
  | .ok v c' => (separatedTail p separator c').map (v :: ·)
  | .error e => .error e
  | .diverge => .diverge

/-- Any number of items with a separator between any two. -/
def separatedBy (p : Parser α) (separator : Parser β) : Parser (List α) := fun c =>
  match p c with
  | .ok v c' => (separatedTail p separator c').map (v :: ·)
  | .error _ => .ok [] c
  | .diverge => .diverge

end Parser

end Backtrack
