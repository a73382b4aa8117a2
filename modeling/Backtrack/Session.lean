import Backtrack.Grammar.Basic

/-!
# Sessions

A session reads a text step by step.  It has a cursor, which a step may move, and bookmarks:
cursors that were saved under a name, to go back to or to measure from.
-/

set_option autoImplicit false

namespace Backtrack

/-- A cursor with bookmarks. -/
structure Session where
  /-- The place where the session stands. -/
  cursor : Cursor
  /-- The places that were saved, the latest first. -/
  bookmarks : List (String × Cursor)

namespace Session

/-- A session at the beginning of a text. -/
def start (source : Text) : Session := ⟨.start source, []⟩

/-- One step of a session. -/
inductive Step where
  /-- Read what a grammar describes.  If it fails, the cursor stays. -/
  | parse (g : Grammar)
  /-- Go one character forward. -/
  | next
  /-- Go `n` bytes forward. -/
  | advance (n : Nat)
  /-- Save the cursor under a name. -/
  | save (name : String)
  /-- Go back to a saved cursor. -/
  | load (name : String)
  /-- Measure from a saved cursor to the current one. -/
  | range (name : String)
  /-- Measure nothing at the current cursor. -/
  | rangeEmpty
  /-- Compare a saved cursor with the current one. -/
  | same (name : String)

/-- What a step reports besides the state it leads to. -/
inductive Report where
  /-- Nothing. -/
  | silent
  /-- How reading went. -/
  | outcome (o : Outcome Value)
  /-- A range. -/
  | range (r : Range)
  /-- Whether two cursors are the same. -/
  | same (b : Bool)
  /-- The name was not used for a bookmark. -/
  | unknown (name : String)

/-- The saved cursor of a name. -/
def bookmark? (s : Session) (name : String) : Option Cursor := s.bookmarks.lookup name

/-- Take one step. -/
def step (defs : Definitions) (s : Session) : Step → Session × Report
  | .parse g =>
    let o := g.parser defs s.cursor
    match o with
    | .ok _ c => ({ s with cursor := c }, .outcome o)
    | _ => (s, .outcome o)
  | .next => ({ s with cursor := s.cursor.next }, .silent)
  | .advance n => ({ s with cursor := s.cursor.advance n }, .silent)
  | .save name => ({ s with bookmarks := (name, s.cursor) :: s.bookmarks }, .silent)
  | .load name =>
    match s.bookmark? name with
    | some c => ({ s with cursor := c }, .silent)
    | none => (s, .unknown name)
  | .range name =>
    match s.bookmark? name with
    | some c => (s, .range (.between c s.cursor))
    | none => (s, .unknown name)
  | .rangeEmpty => (s, .range (.empty s.cursor))
  | .same name =>
    match s.bookmark? name with
    | some c => (s, .same (c == s.cursor))
    | none => (s, .unknown name)

/-- Take several steps, and list the state after each with what it reported. -/
def run (defs : Definitions) (s : Session) : List Step → List (Session × Report)
  | [] => []
  | t :: steps =>
    let (s, report) := s.step defs t
    (s, report) :: run defs s steps

end Session

end Backtrack
