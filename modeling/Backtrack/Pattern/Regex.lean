import Backtrack.Pattern.CharSet

/-!
# Regular expressions and how they match

A regular expression can match in several ways from the same place, and which of the ends counts
is a matter of preference: the first branch of an alternative before the second, one more round
of a greedy loop before leaving it, and the other way round for a lazy one.  `Regex.ends` lists all
ends in the order of preference, and the match is the first of them.

Two things keep the lists short and the loops finite.  An end that has been listed is not listed
again, since whatever follows would only be tried a second time.  And a round of an unbounded loop
that matched the empty text is the last one.
-/

set_option autoImplicit false

namespace Backtrack

/-- A condition on the place between two characters. -/
inductive Look where
  /-- The beginning of the text. -/
  | textStart
  /-- The end of the text. -/
  | textEnd
  /-- The beginning of a line; lines may also end with a carriage return if `crlf` holds. -/
  | lineStart (crlf : Bool)
  /-- The end of a line. -/
  | lineEnd (crlf : Bool)
  /-- A word begins or ends here. -/
  | wordBoundary (word : CharSet)
  /-- No word begins or ends here. -/
  | notWordBoundary (word : CharSet)
  /-- A word begins here. -/
  | wordStart (word : CharSet)
  /-- A word ends here. -/
  | wordEnd (word : CharSet)
  /-- No word character stands in front. -/
  | wordStartHalf (word : CharSet)
  /-- No word character stands behind. -/
  | wordEndHalf (word : CharSet)

/-- A regular expression. -/
inductive Regex where
  /-- The empty text. -/
  | empty
  /-- One character of a set. -/
  | set (s : CharSet)
  /-- The empty text where a condition holds. -/
  | look (l : Look)
  /-- One expression after another. -/
  | seq (r s : Regex)
  /-- One of two expressions, preferably the first. -/
  | alt (r s : Regex)
  /-- Exactly `n` rounds. -/
  | times (n : Nat) (r : Regex)
  /-- At most `n` rounds, preferably as many as possible, or as few if `greedy` does not hold. -/
  | atMost (greedy : Bool) (n : Nat) (r : Regex)
  /-- At least one round, preferably as many as possible, or as few if `greedy` does not hold. -/
  | plus (greedy : Bool) (r : Regex)

/-- A place in the text that is being matched. -/
structure Place where
  /-- The number of characters in front of the place. -/
  used : Nat
  /-- The character in front of the place. -/
  before : Option Char
  /-- The text behind the place. -/
  rest : Text

/-- Whether a condition holds at a place. -/
def Look.holds (l : Look) (p : Place) : Bool :=
  let after := p.rest.head?
  let inWord (word : CharSet) (c : Option Char) : Bool := c.any word
  match l with
  | textStart => p.before.isNone
  | textEnd => p.rest.isEmpty
  | lineStart crlf =>
    p.before.isNone || p.before == some '\n' ||
      (crlf && p.before == some '\r' && after != some '\n')
  | lineEnd crlf =>
    if crlf then
      p.rest.isEmpty || after == some '\r' || (after == some '\n' && p.before != some '\r')
    else p.rest.isEmpty || after == some '\n'
  | wordBoundary word => inWord word p.before != inWord word after
  | notWordBoundary word => inWord word p.before == inWord word after
  | wordStart word => !inWord word p.before && inWord word after
  | wordEnd word => inWord word p.before && !inWord word after
  | wordStartHalf word => !inWord word p.before
  | wordEndHalf word => !inWord word after

namespace Regex

/-- Any number of rounds. -/
def star (greedy : Bool) (r : Regex) : Regex :=
  if greedy then alt (plus true r) empty else alt empty (plus false r)

/-- At least `least` and at most `most` rounds, or any greater number if there is no bound. -/
def rounds (greedy : Bool) (least : Nat) (most : Option Nat) (r : Regex) : Regex :=
  match most with
  | some m => seq (times least r) (atMost greedy (m - least) r)
  | none => if least = 0 then star greedy r else seq (times (least - 1) r) (plus greedy r)

/-- The number of steps in an expression when all its rounds are written out. -/
def size : Regex → Nat
  | empty => 1
  | set _ => 1
  | look _ => 1
  | seq r s => r.size + s.size
  | alt r s => r.size + s.size + 1
  | times n r => n * r.size
  | atMost _ n r => n * (r.size + 1) + 1
  | plus _ r => r.size + 1

/-! ## Matching -/

/-- Ends found so far, the last one first. -/
abbrev Found : Type := List Place

/-- Add an end, unless it is there already. -/
def Found.add (found : Found) (p : Place) : Found :=
  if found.any fun q => q.used == p.used then found else p :: found

/-- Ends in the order in which they are given, each of them once. -/
def distinct (ps : List Place) : List Place := (ps.foldl Found.add []).reverse

/-- Run through the rounds of a loop with a bound, where `step` gives the ends of one round.
`visited` holds the places from which rounds have been run, with the number of rounds that were
left there. -/
def boundedFrom (greedy : Bool) (step : Place → List Place) :
    Nat → Place → List (Nat × Nat) × Found → List (Nat × Nat) × Found
  | 0, p, (visited, found) => (visited, found.add p)
  | n + 1, p, (visited, found) =>
    if visited.contains (n, p.used) then (visited, found)
    else
      let visited := (n, p.used) :: visited
      let run := fun state =>
        (step p).foldl (fun state q => boundedFrom greedy step n q state) state
      if greedy then
        let (visited, found) := run (visited, found)
        (visited, found.add p)
      else run (visited, found.add p)

/-- Run through the rounds of a loop without a bound, where `step` gives the ends of one round.
Each round but the last takes at least one of the `n` characters that are left.  `visited` holds
the places from which rounds have been run. -/
def unboundedFrom (greedy : Bool) (step : Place → List Place) :
    Nat → Place → List Nat × Found → List Nat × Found
  | 0, _, state => state
  | n + 1, p, (visited, found) =>
    if visited.contains p.used then (visited, found)
    else
      (step p).foldl
        (fun (visited, found) q =>
          if q.used == p.used then (visited, found.add q)
          else if greedy then
            let (visited, found) := unboundedFrom greedy step n q (visited, found)
            (visited, found.add q)
          else unboundedFrom greedy step n q (visited, found.add q))
        (p.used :: visited, found)

/-- The places reached from a list of places by `n` rounds. -/
def iterate (step : Place → List Place) : Nat → List Place → List Place
  | 0, ps => ps
  | n + 1, ps => if ps.isEmpty then [] else iterate step n (distinct (ps.flatMap step))

/-- All ends of the matches that start at a place, in the order of preference. -/
def ends : Regex → Place → List Place
  | empty, p => [p]
  | set s, p =>
    match p.rest with
    | [] => []
    | x :: rest => if s x then [⟨p.used + 1, some x, rest⟩] else []
  | look l, p => if l.holds p then [p] else []
  | seq r s, p => distinct ((r.ends p).flatMap s.ends)
  | alt r s, p => distinct (r.ends p ++ s.ends p)
  | times n r, p => iterate r.ends n [p]
  | atMost greedy n r, p => (boundedFrom greedy r.ends n p ([], [])).2.reverse
  | plus greedy r, p => (unboundedFrom greedy r.ends (p.rest.length + 1) p ([], [])).2.reverse

/-- The number of characters matched at a place, by the match that is preferred there; `before` is
the character in front of the place and `rest` the text behind it. -/
def matchLength? (r : Regex) (before : Option Char) (rest : Text) : Option Nat :=
  (r.ends ⟨0, before, rest⟩).head?.map Place.used

/-- Look for the first place where there is a match.  The numbers are those of the characters in
front of it and of the characters that are matched. -/
def search? (r : Regex) (before : Option Char) (s : Text) : Option (Nat × Nat) :=
  match r.matchLength? before s with
  | some n => some (0, n)
  | none =>
    match s with
    | [] => none
    | x :: s => (search? r (some x) s).map fun (i, n) => (i + 1, n)

end Regex

end Backtrack
