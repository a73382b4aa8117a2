import Backtrack.Parser.Sequence

/-!
# Looking ahead

These parsers run another one for what it says about the text and not for reading it: the place
where it stops is forgotten.  `upTo` looks ahead at every place in turn and stops in front of the
first one where its terminator succeeds, so that the terminator can be read again.
-/

set_option autoImplicit false

namespace Backtrack

namespace Parser

variable {α β : Type}

/-- Run `p`, and require that `look` succeeds where it stops. -/
def followedBy (p : Parser α) (look : Parser β) : Parser α := fun c =>
  match p c with
  | .ok v c' =>
    match look c' with
    | .ok _ _ => .ok v c'
    | .error e => .error e
    | .diverge => .diverge
  | .error e => .error e
  | .diverge => .diverge

/-- Run `p`, and require that `look` fails where it stops. -/
def notFollowedBy (p : Parser α) (look : Parser β) : Parser α := fun c =>
  match p c with
  | .ok v c' =>
    match look c' with
    | .ok _ _ => .error .mismatch
    | .error _ => .ok v c'
    | .diverge => .diverge
  | .error e => .error e
  | .diverge => .diverge

/-- Look for the first place where `terminator` succeeds, from between `past` and the unread text
on and up to the end of the text.  The value is what was passed over together with the
terminator's value, and reading stops in front of the terminator; `e` is the error if there is no
such place. -/
def scan (terminator : Parser α) (e : ParseError) (past : Text) (unread : Text) :
    Outcome (Text × α) :=
  match terminator ⟨past, unread⟩ with
  | .ok v _ => .ok ([], v) ⟨past, unread⟩
  | .error _ =>
    match unread with
    | [] => .error e
    | x :: r => (scan terminator e (x :: past) r).map fun (passed, v) => (x :: passed, v)
  | .diverge => .diverge

/-- Pass over the text in front of the first place where `terminator` succeeds, which may be the
end of the text, and yield that text with the terminator's value. -/
def upTo (terminator : Parser α) : Parser (String × α) := fun c =>
  (scan terminator (.expectTerminator (String.ofList c.rest)) c.past c.rest).map
    fun (passed, v) => (String.ofList passed, v)

/-- Require that nothing is left to read. -/
def endOfInput : Parser Unit := fun c =>
  if c.atEnd then .ok () c else .error (.expectEnd (String.ofList c.rest))

/-- Run `p`, and require that it reads everything. -/
def ended (p : Parser α) : Parser α := left p endOfInput

end Parser

end Backtrack
