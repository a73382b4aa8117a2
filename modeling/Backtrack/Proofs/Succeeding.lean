import Backtrack.Operator
import Backtrack.Pattern.Basic

/-!
# How a parser comes to succeed

For each combinator, what its parts must have done if the whole succeeded, and where they stood
when they did it.  The lemmas say everything that led to the value, so that no proof about
successful parses has to open the definition of a combinator again.

A repetition is opened by one round: it stopped in front of a failure, or a round succeeded, left
less to read, and the repetition went on from there.
-/

set_option autoImplicit false

namespace Backtrack

variable {α β : Type} {c c' : Cursor}

theorem Outcome.map_eq_ok {f : α → β} {o : Outcome α} {u : β} (h : o.map f = .ok u c') :
    ∃ v, o = .ok v c' ∧ u = f v := by
  cases o with
  | ok v d =>
    cases h
    exact ⟨v, rfl, rfl⟩
  | error e => cases h
  | diverge => cases h

namespace Parser

variable {p q : Parser α}

/-! ## One after another -/

theorem bind_eq_ok {f : α → Parser β} {u : β} (h : Parser.bind p f c = .ok u c') :
    ∃ v d, p c = .ok v d ∧ f v d = .ok u c' := by
  rw [Parser.bind] at h
  split at h
  · exact ⟨_, _, ‹_›, h⟩
  · cases h
  · cases h

theorem map_eq_ok {f : α → β} {u : β} (h : Parser.map f p c = .ok u c') :
    ∃ v, p c = .ok v c' ∧ u = f v :=
  Outcome.map_eq_ok h

theorem filterMap_eq_ok {f : α → Option β} {u : β} (h : filterMap f p c = .ok u c') :
    ∃ v, p c = .ok v c' ∧ f v = some u := by
  rw [filterMap] at h
  split at h
  · split at h
    · cases h
      exact ⟨_, ‹_›, ‹_›⟩
    · cases h
  · cases h
  · cases h

theorem ranged_eq_ok {u : Ranged α} (h : ranged p c = .ok u c') :
    ∃ v, p c = .ok v c' ∧ u = ⟨v, .between c c'⟩ := by
  rw [ranged] at h
  split at h
  · cases h
    exact ⟨_, ‹_›, rfl⟩
  · cases h
  · cases h

/-! ## Errors and choice -/

theorem mapError_eq_ok {f : ParseError → ParseError} {v : α} (h : mapError f p c = .ok v c') :
    p c = .ok v c' := by
  rw [mapError] at h
  split at h
  · cases h
  · exact h

theorem recover_eq_ok {f : ParseError → Parser α} {v : α} (h : recover p f c = .ok v c') :
    p c = .ok v c' ∨ ∃ e, p c = .error e ∧ f e c = .ok v c' := by
  rw [recover] at h
  split at h
  · exact .inr ⟨_, ‹_›, h⟩
  · exact .inl h

theorem either_eq_ok {v : α} (h : either p q c = .ok v c') :
    p c = .ok v c' ∨ (∃ e, p c = .error e) ∧ q c = .ok v c' := by
  rw [either] at h
  split at h
  · split at h
    · cases h
    · exact .inr ⟨⟨_, ‹_›⟩, h⟩
  · exact .inl h

theorem firstOf_eq_ok {ps : List (Parser α)} {v : α} (h : firstOf ps c = .ok v c') :
    ∃ p ∈ ps, p c = .ok v c' := by
  induction ps with
  | nil => cases h
  | cons p ps ih =>
    rw [firstOf] at h
    split at h
    · obtain ⟨q, hq, hok⟩ := ih h
      exact ⟨q, List.mem_cons_of_mem _ hq, hok⟩
    · exact ⟨p, List.mem_cons_self, h⟩

theorem optional_eq_ok {o : Option α} (h : optional p c = .ok o c') :
    (∃ v, p c = .ok v c' ∧ o = some v) ∨ (∃ e, p c = .error e) ∧ o = none ∧ c' = c := by
  rw [optional] at h
  split at h
  · cases h
    exact .inl ⟨_, ‹_›, rfl⟩
  · cases h
    exact .inr ⟨⟨_, ‹_›⟩, rfl, rfl⟩
  · cases h

/-! ## Characters -/

theorem satisfy_eq_ok {f : Char → Bool} {x : Char} (h : satisfy f c = .ok x c') :
    f x = true ∧ c.rest = x :: c'.rest ∧ c' = c.moveTo [x] c'.rest := by
  rw [satisfy] at h
  split at h
  · cases h
  · split at h
    · cases h
      exact ⟨‹_›, ‹_›, rfl⟩
    · cases h

theorem text_eq_ok {s v : String} (h : text s c = .ok v c') :
    v = s ∧ c.rest = s.toList ++ c'.rest ∧ c' = c.moveTo s.toList c'.rest := by
  rw [text] at h
  split at h
  · rename_i r hr
    cases h
    exact ⟨rfl, stripBeginning?_eq_some_iff.1 hr, rfl⟩
  · cases h

theorem pattern_eq_ok {r : Pattern} {v : String} (h : r.parser c = .ok v c') :
    ∃ w, c.rest = w ++ c'.rest ∧ v = String.ofList w ∧ c' = c.moveTo w c'.rest := by
  rw [Pattern.parser] at h
  split at h
  · next m _ =>
    split at h
    · next hbefore =>
      cases h
      have hrest := m.eq_append
      rw [List.isEmpty_iff.1 hbefore] at hrest
      exact ⟨m.matched, hrest, rfl, rfl⟩
    · cases h
  · cases h

/-! ## Looking ahead -/

theorem followedBy_eq_ok {look : Parser β} {v : α} (h : followedBy p look c = .ok v c') :
    p c = .ok v c' ∧ ∃ u d, look c' = .ok u d := by
  rw [followedBy] at h
  split at h
  · split at h
    · cases h
      exact ⟨‹_›, _, _, ‹_›⟩
    · cases h
    · cases h
  · cases h
  · cases h

theorem notFollowedBy_eq_ok {look : Parser β} {v : α} (h : notFollowedBy p look c = .ok v c') :
    p c = .ok v c' ∧ ∃ e, look c' = .error e := by
  rw [notFollowedBy] at h
  split at h
  · split at h
    · cases h
    · cases h
      exact ⟨‹_›, _, ‹_›⟩
    · cases h
  · cases h
  · cases h

/-- A scan passes over a beginning of the unread text and stops where the terminator succeeds. -/
theorem scan_eq_ok {e : ParseError} {past unread passed : Text} {v : α}
    (h : scan p e past unread = .ok (passed, v) c') :
    unread = passed ++ c'.rest ∧ c' = ⟨passed.reverse ++ past, c'.rest⟩ ∧ ∃ d, p c' = .ok v d := by
  induction unread generalizing past passed with
  | nil =>
    rw [scan] at h
    split at h
    · cases h
      exact ⟨rfl, rfl, _, ‹_›⟩
    · cases h
    · cases h
  | cons x r ih =>
    rw [scan] at h
    split at h
    · cases h
      exact ⟨rfl, rfl, _, ‹_›⟩
    · obtain ⟨⟨passed', v'⟩, hscan, heq⟩ := Outcome.map_eq_ok h
      cases heq
      obtain ⟨hr, hc', hp⟩ := ih hscan
      exact ⟨by rw [hr]; rfl, by rw [List.reverse_cons, List.append_assoc]; exact hc', hp⟩
    · cases h

theorem upTo_eq_ok {u : String × α} (h : upTo p c = .ok u c') :
    ∃ passed v, u = (String.ofList passed, v) ∧ c.rest = passed ++ c'.rest ∧
      c' = c.moveTo passed c'.rest ∧ ∃ d, p c' = .ok v d := by
  obtain ⟨⟨passed, v⟩, hscan, rfl⟩ := Outcome.map_eq_ok h
  exact ⟨passed, v, rfl, scan_eq_ok hscan⟩

theorem endOfInput_eq_ok {u : Unit} (h : endOfInput c = .ok u c') :
    c.rest = [] ∧ c' = c := by
  rw [endOfInput] at h
  split at h
  · rename_i hend
    cases h
    exact ⟨List.isEmpty_iff.1 hend, rfl⟩
  · cases h

/-! ## Repetition -/

theorem many_eq_ok {vs : List α} (h : many p c = .ok vs c') :
    ((∃ e, p c = .error e) ∧ vs = [] ∧ c' = c) ∨
      ∃ v d vs', p c = .ok v d ∧ d.rest.length < c.rest.length ∧ many p d = .ok vs' c' ∧
        vs = v :: vs' := by
  rw [many] at h
  split at h
  · split at h
    · obtain ⟨vs', hmany, rfl⟩ := Outcome.map_eq_ok h
      exact .inr ⟨_, _, vs', ‹_›, ‹_›, hmany, rfl⟩
    · cases h
  · cases h
    exact .inl ⟨⟨_, ‹_›⟩, rfl, rfl⟩
  · cases h

theorem many1_eq_ok {vs : List α} (h : many1 p c = .ok vs c') :
    ∃ v d, p c = .ok v d ∧ d.rest.length < c.rest.length ∧
      (((∃ e, many1 p d = .error e) ∧ vs = [v] ∧ c' = d) ∨
        ∃ vs', many1 p d = .ok vs' c' ∧ vs = v :: vs') := by
  rw [many1] at h
  split at h
  · split at h
    · split at h
      · cases h
        exact ⟨_, _, ‹_›, ‹_›, .inr ⟨_, ‹_›, rfl⟩⟩
      · cases h
        exact ⟨_, _, ‹_›, ‹_›, .inl ⟨⟨_, ‹_›⟩, rfl, rfl⟩⟩
      · cases h
    · cases h
  · cases h
  · cases h

/-- Where no item follows, the separator in front of it is not read either. -/
theorem separatedTail_eq_ok {separator : Parser β} {vs : List α}
    (h : separatedTail p separator c = .ok vs c') :
    (((∃ e, separator c = .error e) ∨ ∃ u d e, separator c = .ok u d ∧ p d = .error e) ∧
        vs = [] ∧ c' = c) ∨
      ∃ u d v d' vs', separator c = .ok u d ∧ p d = .ok v d' ∧ d'.rest.length < c.rest.length ∧
        separatedTail p separator d' = .ok vs' c' ∧ vs = v :: vs' := by
  rw [separatedTail] at h
  split at h
  · split at h
    · split at h
      · obtain ⟨vs', htail, rfl⟩ := Outcome.map_eq_ok h
        exact .inr ⟨_, _, _, _, vs', ‹_›, ‹_›, ‹_›, htail, rfl⟩
      · cases h
    · cases h
      exact .inl ⟨.inr ⟨_, _, _, ‹_›, ‹_›⟩, rfl, rfl⟩
    · cases h
  · cases h
    exact .inl ⟨.inl ⟨_, ‹_›⟩, rfl, rfl⟩
  · cases h

theorem separatedBy1_eq_ok {separator : Parser β} {vs : List α}
    (h : separatedBy1 p separator c = .ok vs c') :
    ∃ v d vs', p c = .ok v d ∧ separatedTail p separator d = .ok vs' c' ∧ vs = v :: vs' := by
  rw [separatedBy1] at h
  split at h
  · obtain ⟨vs', htail, rfl⟩ := Outcome.map_eq_ok h
    exact ⟨_, _, vs', ‹_›, htail, rfl⟩
  · cases h
  · cases h

theorem separatedBy_eq_ok {separator : Parser β} {vs : List α}
    (h : separatedBy p separator c = .ok vs c') :
    ((∃ e, p c = .error e) ∧ vs = [] ∧ c' = c) ∨
      ∃ v d vs', p c = .ok v d ∧ separatedTail p separator d = .ok vs' c' ∧ vs = v :: vs' := by
  rw [separatedBy] at h
  split at h
  · obtain ⟨vs', htail, rfl⟩ := Outcome.map_eq_ok h
    exact .inr ⟨_, _, vs', ‹_›, htail, rfl⟩
  · cases h
    exact .inl ⟨⟨_, ‹_›⟩, rfl, rfl⟩
  · cases h

/-! ## Operators -/

/-- Where no operand follows, the symbol in front of it is not read either. -/
theorem leftLoop_eq_ok {symbol : Parser String} {t t' : Tree α}
    (h : leftLoop symbol p t c = .ok t' c') :
    (((∃ e, symbol c = .error e) ∨ ∃ op d e, symbol c = .ok op d ∧ p d = .error e) ∧
        t' = t ∧ c' = c) ∨
      ∃ op d v d', symbol c = .ok op d ∧ p d = .ok v d' ∧ d'.rest.length < c.rest.length ∧
        leftLoop symbol p (.node op t (.leaf v)) d' = .ok t' c' := by
  rw [leftLoop] at h
  split at h
  · split at h
    · split at h
      · exact .inr ⟨_, _, _, _, ‹_›, ‹_›, ‹_›, h⟩
      · cases h
    · cases h
      exact .inl ⟨.inr ⟨_, _, _, ‹_›, ‹_›⟩, rfl, rfl⟩
    · cases h
  · cases h
    exact .inl ⟨.inl ⟨_, ‹_›⟩, rfl, rfl⟩
  · cases h

theorem leftOperators_eq_ok {symbol : Parser String} {t : Tree α}
    (h : leftOperators symbol p c = .ok t c') :
    ∃ v d, p c = .ok v d ∧ leftLoop symbol p (.leaf v) d = .ok t c' := by
  rw [leftOperators] at h
  split at h
  · exact ⟨_, _, ‹_›, h⟩
  · cases h
  · cases h

/-- Where no operand follows, the symbol in front of it is not read either. -/
theorem rightOperators_eq_ok {symbol : Parser String} {t : Tree α}
    (h : rightOperators symbol p c = .ok t c') :
    ∃ v d, p c = .ok v d ∧
      ((((∃ e, symbol d = .error e) ∨
            ∃ op d' e, symbol d = .ok op d' ∧ rightOperators symbol p d' = .error e) ∧
          t = .leaf v ∧ c' = d) ∨
        ∃ op d' t', symbol d = .ok op d' ∧ d'.rest.length < c.rest.length ∧
          rightOperators symbol p d' = .ok t' c' ∧ t = .node op (.leaf v) t') := by
  rw [rightOperators] at h
  split at h
  · refine ⟨_, _, ‹_›, ?_⟩
    split at h
    · split at h
      · split at h
        · cases h
          exact .inr ⟨_, _, _, ‹_›, ‹_›, ‹_›, rfl⟩
        · cases h
          exact .inl ⟨.inr ⟨_, _, _, ‹_›, ‹_›⟩, rfl, rfl⟩
        · cases h
      · cases h
    · cases h
      exact .inl ⟨.inl ⟨_, ‹_›⟩, rfl, rfl⟩
    · cases h
  · cases h
  · cases h

end Parser

end Backtrack
