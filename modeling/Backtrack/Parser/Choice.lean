import Backtrack.Parser.Basic

/-!
# Choosing between parsers

Choice is ordered: the first parser that succeeds decides, and the ones after it are not run.  If
none succeeds the errors they gave are dropped, and the whole reports a mismatch.
-/

set_option autoImplicit false

namespace Backtrack

namespace Parser

variable {α : Type}

/-- Run `p`, and if it fails, `q` from the same place. -/
def either (p q : Parser α) : Parser α := fun c =>
  match p c with
  | .error _ =>
    match q c with
    | .error _ => .error .mismatch
    | r => r
  | r => r

/-- Run the parsers of a list from the same place until one succeeds. -/
def firstOf : List (Parser α) → Parser α
  | [], _ => .error .mismatch
  | p :: ps, c =>
    match p c with
    | .error _ => firstOf ps c
    | r => r

/-- Run `p`, and if it fails yield nothing and stay in place. -/
def optional (p : Parser α) : Parser (Option α) := fun c =>
  match p c with
  | .ok v c' => .ok (some v) c'
  | .error _ => .ok none c
  | .diverge => .diverge

/-- Run `p`, and if it fails yield `d` and stay in place. -/
def withDefault (d : α) (p : Parser α) : Parser α := Parser.map (·.getD d) (optional p)

end Parser

end Backtrack
