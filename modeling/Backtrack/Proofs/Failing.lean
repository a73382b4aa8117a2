import Backtrack.Proofs.Operator.Grouping

/-!
# How a parser comes to fail

The other side of `Backtrack.Proofs.Succeeding`: for each combinator, which of its parts failed if
the whole did, where that part stood, and whether its error was kept.

Three things happen to an error on its way out.  Running one parser after another keeps it as it
is.  A choice that runs out of alternatives, a value that is not wanted and a negative look ahead
put a mismatch in its place.  Optional parts and repetitions drop it, and so they have no error at
all, apart from that of a first item without which there is no value.
-/

set_option autoImplicit false

namespace Backtrack

variable {α β : Type} {c : Cursor} {e : ParseError}

theorem Outcome.map_eq_error {f : α → β} {o : Outcome α} (h : o.map f = .error e) :
    o = .error e := by
  cases o with
  | ok v d => cases h
  | error e' => exact congrArg Outcome.error (Outcome.error.inj h)
  | diverge => cases h

namespace Parser

variable {p q : Parser α}

/-! ## Errors that are kept -/

theorem bind_eq_error {f : α → Parser β} (h : Parser.bind p f c = .error e) :
    p c = .error e ∨ ∃ v d, p c = .ok v d ∧ f v d = .error e := by
  rw [Parser.bind] at h
  split at h
  · exact .inr ⟨_, _, ‹_›, h⟩
  · cases h
    exact .inl ‹_›
  · cases h

theorem map_eq_error {f : α → β} (h : Parser.map f p c = .error e) : p c = .error e :=
  Outcome.map_eq_error h

theorem ranged_eq_error (h : ranged p c = .error e) : p c = .error e := by
  rw [ranged] at h
  split at h
  · cases h
  · cases h
    exact ‹_›
  · cases h

theorem recover_eq_error {f : ParseError → Parser α} (h : recover p f c = .error e) :
    ∃ e', p c = .error e' ∧ f e' c = .error e := by
  rw [recover] at h
  split at h
  · exact ⟨_, ‹_›, h⟩
  · rename_i hne
    exact absurd h (hne e)

theorem followedBy_eq_error {look : Parser β} (h : followedBy p look c = .error e) :
    p c = .error e ∨ ∃ v d, p c = .ok v d ∧ look d = .error e := by
  rw [followedBy] at h
  split at h
  · split at h
    · cases h
    · cases h
      exact .inr ⟨_, _, ‹_›, ‹_›⟩
    · cases h
  · cases h
    exact .inl ‹_›
  · cases h

/-! ## Errors in place of others -/

theorem filterMap_eq_error {f : α → Option β} (h : filterMap f p c = .error e) :
    p c = .error e ∨ e = .mismatch := by
  rw [filterMap] at h
  split at h
  · split at h
    · cases h
    · cases h
      exact .inr rfl
  · cases h
    exact .inl ‹_›
  · cases h

theorem either_eq_error (h : either p q c = .error e) : e = .mismatch := by
  rw [either] at h
  split at h
  · split at h
    · cases h
      rfl
    · rename_i hne
      exact absurd h (hne e)
  · rename_i hne
    exact absurd h (hne e)

theorem firstOf_eq_error {ps : List (Parser α)} (h : firstOf ps c = .error e) : e = .mismatch := by
  induction ps with
  | nil =>
    cases h
    rfl
  | cons p ps ih =>
    rw [firstOf] at h
    split at h
    · exact ih h
    · rename_i hne
      exact absurd h (hne e)

theorem notFollowedBy_eq_error {look : Parser β} (h : notFollowedBy p look c = .error e) :
    p c = .error e ∨ e = .mismatch := by
  rw [notFollowedBy] at h
  split at h
  · split at h
    · cases h
      exact .inr rfl
    · cases h
    · cases h
  · cases h
    exact .inl ‹_›
  · cases h

/-! ## The parsers that look at the text -/

theorem satisfy_eq_error {f : Char → Bool} (h : satisfy f c = .error e) : e = .mismatch := by
  rw [satisfy] at h
  split at h
  · cases h
    rfl
  · split at h
    · cases h
    · cases h
      rfl

theorem text_eq_error {s : String} (h : text s c = .error e) : e = .mismatch := by
  rw [text] at h
  split at h
  · cases h
  · cases h
    rfl

theorem pattern_eq_error {r : Pattern} (h : r.parser c = .error e) : e = .mismatch := by
  rw [Pattern.parser] at h
  split at h
  · split at h
    · cases h
    · cases h
      rfl
  · cases h
    rfl

theorem endOfInput_eq_error (h : endOfInput c = .error e) :
    c.rest ≠ [] ∧ e = .expectEnd (String.ofList c.rest) := by
  rw [endOfInput] at h
  split at h
  · cases h
  · rename_i hend
    cases h
    exact ⟨fun hrest => hend (List.isEmpty_iff.2 hrest), rfl⟩

/-- A scan that fails has the error that it was given. -/
theorem scan_eq_error {e' : ParseError} {past unread : Text}
    (h : scan p e' past unread = .error e) : e = e' := by
  induction unread generalizing past with
  | nil =>
    rw [scan] at h
    split at h
    · cases h
    · cases h
      rfl
    · cases h
  | cons x r ih =>
    rw [scan] at h
    split at h
    · cases h
    · exact ih (Outcome.map_eq_error h)
    · cases h

theorem upTo_eq_error (h : upTo p c = .error e) :
    e = .expectTerminator (String.ofList c.rest) :=
  scan_eq_error (Outcome.map_eq_error h)

/-! ## Errors that are dropped -/

theorem optional_ne_error (p : Parser α) (c : Cursor) (e : ParseError) :
    optional p c ≠ .error e := by
  rw [optional]
  split <;> simp

theorem many1_eq_error (h : many1 p c = .error e) : p c = .error e := by
  rw [many1] at h
  split at h
  · split at h
    · split at h <;> cases h
    · cases h
  · cases h
    exact ‹_›
  · cases h

theorem separatedTail_ne_error (p : Parser α) (separator : Parser β) (c : Cursor)
    (e : ParseError) : separatedTail p separator c ≠ .error e := by
  rw [separatedTail_eq_map_many]
  exact fun h => many_ne_error _ c e (Outcome.map_eq_error h)

theorem separatedBy1_eq_error {separator : Parser β} (h : separatedBy1 p separator c = .error e) :
    p c = .error e := by
  rw [separatedBy1] at h
  split at h
  · exact absurd (Outcome.map_eq_error h) (separatedTail_ne_error _ _ _ e)
  · cases h
    exact ‹_›
  · cases h

theorem separatedBy_ne_error (p : Parser α) (separator : Parser β) (c : Cursor) (e : ParseError) :
    separatedBy p separator c ≠ .error e := by
  intro h
  rw [separatedBy] at h
  split at h
  · exact absurd (Outcome.map_eq_error h) (separatedTail_ne_error _ _ _ e)
  · cases h
  · cases h

theorem leftOperators_eq_error {symbol : Parser String} (h : leftOperators symbol p c = .error e) :
    p c = .error e := by
  rw [leftOperators_eq_map] at h
  exact chain_eq_error (map_eq_error h)

theorem rightOperators_eq_error {symbol : Parser String}
    (h : rightOperators symbol p c = .error e) : p c = .error e := by
  rw [rightOperators] at h
  split at h
  · split at h
    · split at h
      · split at h <;> cases h
      · cases h
    · cases h
    · cases h
  · cases h
    exact ‹_›
  · cases h

end Parser

end Backtrack
