/-!
# Why a parse fails

Three of the four causes say something about the text: it did not match, more of it was left than
expected, or nothing ended a scan.  The fourth carries a message of the grammar's own.  The
wording of all of them stands in one place, `ParseError.message`.
-/

set_option autoImplicit false

namespace Backtrack

/-- What kind of failure an error reports, without its particulars. -/
inductive ErrorKind where
  | mismatch
  | expectEnd
  | expectTerminator
  | custom
deriving DecidableEq, Repr

/-- The name by which a kind of failure is reported. -/
def ErrorKind.tag : ErrorKind → String
  | .mismatch => "Mismatch"
  | .expectEnd => "ExpectEnd"
  | .expectTerminator => "ExpectTerminator"
  | .custom => "Custom"

/-- The cause of a failed parse. -/
inductive ParseError where
  /-- The input is not of the expected form. -/
  | mismatch
  /-- The input should have ended, and `rest` is what was left of it. -/
  | expectEnd (rest : String)
  /-- No terminator was found, and `scanned` is the text that was searched. -/
  | expectTerminator (scanned : String)
  /-- A failure with a message of its own. -/
  | custom (message : String)
deriving DecidableEq, Repr

namespace ParseError

/-- The kind of an error. -/
def kind : ParseError → ErrorKind
  | mismatch => .mismatch
  | expectEnd _ => .expectEnd
  | expectTerminator _ => .expectTerminator
  | custom _ => .custom

/-- The text of an error. -/
def message : ParseError → String
  | mismatch => "input did not match"
  | expectEnd rest => "expected end of input, got '" ++ rest ++ "'"
  | expectTerminator scanned => "no terminator found after '" ++ scanned ++ "'"
  | custom text => text

/-- Whether an error is of the given kind. -/
def isKind (e : ParseError) (k : ErrorKind) : Bool := e.kind == k

/-- Whether an error says no more than that the input did not match. -/
def isMismatch (e : ParseError) : Bool := e.isKind .mismatch

/-- The error of a given kind whose particulars are `payload`; a mismatch has none. -/
def ofKind (payload : String) : ErrorKind → ParseError
  | .mismatch => mismatch
  | .expectEnd => expectEnd payload
  | .expectTerminator => expectTerminator payload
  | .custom => custom payload

@[simp] theorem kind_ofKind (payload : String) (k : ErrorKind) : (ofKind payload k).kind = k := by
  cases k <;> rfl

end ParseError

end Backtrack
