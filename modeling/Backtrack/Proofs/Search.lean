import Backtrack.Proofs.Termination

/-!
# A search stops at the first success of its terminator

A search runs its terminator at one place after another, and the first place at which the terminator
does not fail decides what comes of the search.  Such a place need not be in front of a character:
a terminator that reads nothing, or that waits for the end of the text, succeeds at the end.

* `Cursor.reaches_iff_ahead` — the places that can be reached by reading are all the boundaries of
  the text from here on, up to and including its end;
* `FailsBefore p c d` — from `c` on, the parser fails at all places that lie before `d`;
* `scan_first` — the induction over the unread text, one character for each step of the search;
* `FirstSuccess` — the outcome of a search, with what it says about the text that was passed over.
  The bytes of that text are counted forward and can be cut off the unread text, so there is nothing
  to fall back on;
* `upTo_first` — a search has that outcome, and so it succeeds if its terminator does anywhere.
-/

set_option autoImplicit false

namespace Backtrack

/-! ## Boundaries -/

namespace Cursor

variable {c d : Cursor} {past r : Text} {x : Char}

theorem reaches_iff_ahead : c.Reaches d ↔ c.Ahead d :=
  ⟨Reaches.ahead, fun h => reaches_of_position_le h.source_eq h.position_le⟩

theorem reaches_nil_iff : Reaches ⟨past, []⟩ d ↔ d = ⟨past, []⟩ := by
  constructor
  · rintro ⟨w, hw, hd⟩
    obtain ⟨rfl, hrest⟩ := List.append_eq_nil_iff.1 hw.symm
    rw [hd, moveTo, hrest]
    rfl
  · rintro rfl
    exact .refl _

/-- Where there is a character, the next boundary lies behind it. -/
theorem reaches_cons_iff :
    Reaches ⟨past, x :: r⟩ d ↔ d = ⟨past, x :: r⟩ ∨ Reaches ⟨x :: past, r⟩ d := by
  constructor
  · rintro ⟨w, hw, hd⟩
    cases w with
    | nil =>
      left
      rw [hd, moveTo, ← List.nil_append d.rest, ← hw]
      rfl
    | cons y w =>
      obtain ⟨rfl, hr⟩ := List.cons.inj hw
      right
      refine ⟨w, hr, ?_⟩
      rw [hd, moveTo, moveTo, List.reverse_cons, List.append_assoc]
      rfl
  · rintro (rfl | h)
    · exact .refl _
    · have hnext : Reaches ⟨past, x :: r⟩ ⟨x :: past, r⟩ := ⟨[x], rfl, rfl⟩
      exact hnext.trans h

/-- A boundary is known by its offset. -/
theorem Ahead.eq_of_position_eq {b : Cursor} (hb : c.Ahead b) (hd : c.Ahead d)
    (h : b.position = d.position) : b = d := by
  have hrest : b.rest = d.rest := by
    have := hb.rest_eq
    rw [h, hd.rest_eq] at this
    exact (Option.some.inj this).symm
  have hpast : b.past = d.past := by
    have hsource := hb.source_eq.trans hd.source_eq.symm
    rw [source, source, hrest] at hsource
    exact List.reverse_inj.1 (List.append_cancel_right hsource)
  cases b
  cases d
  simp_all

theorem Reaches.position_sub {w : Text} (h : c.Reaches d) (hw : c.rest = w ++ d.rest) :
    d.position - c.position = Text.byteSize w := by
  have hsum := h.position_add_byteSize_rest_eq
  rw [hw, Text.byteSize_append] at hsum
  omega

/-- The text between two places is found by counting the bytes between them. -/
theorem Reaches.takeBytes?_eq {w : Text} (h : c.Reaches d) (hw : c.rest = w ++ d.rest) :
    Text.takeBytes? (d.position - c.position) c.rest = some w := by
  rw [h.position_sub hw, hw]
  exact Text.takeBytes?_byteSize_append w d.rest

/-- Advancing by the bytes between two places leads from one to the other. -/
theorem Reaches.advance_eq (h : c.Reaches d) : c.advance (d.position - c.position) = d := by
  obtain ⟨w, hw, hd⟩ := id h
  rw [h.position_sub hw, advance_byteSize hw, ← hd]

theorem Reaches.slice?_eq {w : Text} (h : c.Reaches d) (hw : c.rest = w ++ d.rest) :
    Text.slice? c.position d.position c.source = some w := by
  rw [Text.slice?, if_pos h.ahead.position_le, dropBytes?_position]
  exact h.takeBytes?_eq hw

end Cursor

namespace Parser

open Cursor

variable {α : Type} {p : Parser α} {c d : Cursor} {past r : Text} {x : Char}

/-! ## The first place that decides -/

/-- From `c` on, the parser fails at all places that lie before `d`. -/
def FailsBefore (p : Parser α) (c d : Cursor) : Prop :=
  ∀ b, c.Ahead b → b.position < d.position → ∃ e, p b = .error e

theorem failsBefore_self (p : Parser α) (c : Cursor) : FailsBefore p c c := by
  intro b hb hlt
  exact absurd hb.position_le (Nat.not_le_of_lt hlt)

theorem FailsBefore.of_next {e : ParseError} (h : p ⟨past, x :: r⟩ = .error e)
    (hnext : FailsBefore p ⟨x :: past, r⟩ d) : FailsBefore p ⟨past, x :: r⟩ d := by
  intro b hb hlt
  rcases reaches_cons_iff.1 (reaches_iff_ahead.2 hb) with rfl | hb
  · exact ⟨e, h⟩
  · exact hnext b hb.ahead hlt

/-- **The first place where the terminator does not fail decides.**  It succeeds there, or it
diverges there, or there is no such place. -/
theorem scan_first (p : Parser α) (e : ParseError) (past unread : Text) :
    (∃ passed rest v d, unread = passed ++ rest ∧
      scan p e past unread = .ok (passed, v) ⟨passed.reverse ++ past, rest⟩ ∧
      p ⟨passed.reverse ++ past, rest⟩ = .ok v d ∧
      FailsBefore p ⟨past, unread⟩ ⟨passed.reverse ++ past, rest⟩) ∨
    (scan p e past unread = .error e ∧
      ∀ b, Ahead ⟨past, unread⟩ b → ∃ e', p b = .error e') ∨
    ∃ b, scan p e past unread = .diverge ∧ Ahead ⟨past, unread⟩ b ∧ p b = .diverge ∧
      FailsBefore p ⟨past, unread⟩ b := by
  induction unread generalizing past with
  | nil =>
    rw [scan]
    cases h : p ⟨past, []⟩ with
    | ok v d => exact .inl ⟨[], [], v, d, rfl, rfl, h, failsBefore_self p _⟩
    | error e' =>
      refine .inr (.inl ⟨rfl, fun b hb => ⟨e', ?_⟩⟩)
      rw [reaches_nil_iff.1 (reaches_iff_ahead.2 hb)]
      exact h
    | diverge => exact .inr (.inr ⟨_, rfl, (Reaches.refl _).ahead, h, failsBefore_self p _⟩)
  | cons x r ih =>
    rw [scan]
    cases h : p ⟨past, x :: r⟩ with
    | ok v d => exact .inl ⟨[], x :: r, v, d, rfl, rfl, h, failsBefore_self p _⟩
    | error e' =>
      have hnext : Reaches ⟨past, x :: r⟩ ⟨x :: past, r⟩ := ⟨[x], rfl, rfl⟩
      simp only
      rcases ih (x :: past) with
        ⟨passed, rest, v, d, rfl, hscan, hv, hno⟩ | ⟨hscan, hno⟩ | ⟨b, hscan, hb, hdiverge, hno⟩
      · have hplace : (x :: passed).reverse ++ past = passed.reverse ++ x :: past := by simp
        refine .inl ⟨x :: passed, rest, v, d, rfl, ?_, by rwa [hplace], ?_⟩
        · rw [hscan, hplace]
          rfl
        · rw [hplace]
          exact hno.of_next h
      · refine .inr (.inl ⟨by rw [hscan]; rfl, fun b hb => ?_⟩)
        rcases reaches_cons_iff.1 (reaches_iff_ahead.2 hb) with rfl | hb
        · exact ⟨e', h⟩
        · exact hno b hb.ahead
      · refine .inr (.inr ⟨b, by rw [hscan]; rfl, ?_, hdiverge, hno.of_next h⟩)
        exact (hnext.trans (reaches_iff_ahead.2 hb)).ahead
    | diverge => exact .inr (.inr ⟨_, rfl, (Reaches.refl _).ahead, h, failsBefore_self p _⟩)

/-- **A search can be followed by its offsets.**  Advancing by the difference of the positions leads
to where it stopped, and cutting off as many bytes gives what it passed over. -/
theorem scan_eq_ok_advance {e : ParseError} {passed : Text} {v : α}
    (h : scan p e c.past c.rest = .ok (passed, v) d) :
    c.advance (d.position - c.position) = d ∧
      Text.takeBytes? (d.position - c.position) c.rest = some passed := by
  rcases scan_first p e c.past c.rest with
    ⟨w, rest, u, b, hrest, hscan, -⟩ | ⟨hscan, -⟩ | ⟨b, hscan, -⟩
  · cases hscan.symm.trans h
    have hreach : c.Reaches ⟨passed.reverse ++ c.past, rest⟩ := ⟨passed, hrest, rfl⟩
    exact ⟨hreach.advance_eq, hreach.takeBytes?_eq hrest⟩
  · cases hscan.symm.trans h
  · cases hscan.symm.trans h

/-! ## What the search reports -/

/-- What comes of a search from `c` on, by what its terminator does at the first boundary where it
does not fail. -/
inductive FirstSuccess (terminator : Parser α) (c : Cursor) : Outcome (String × α) → Prop
  /-- It succeeds at `b`.  The text in front of `b` is a slice of the source, and it is what counting
  bytes cuts off the unread text. -/
  | found {scanned : String} {v : α} {b d : Cursor} (hahead : c.Ahead b)
      (hv : terminator b = .ok v d) (hno : FailsBefore terminator c b)
      (hslice : Text.slice? c.position b.position c.source = some scanned.toList)
      (hcut : Text.takeBytes? (b.position - c.position) c.rest = some scanned.toList)
      (hrest : c.rest = scanned.toList ++ b.rest) :
      FirstSuccess terminator c (.ok (scanned, v) b)
  /-- There is no such boundary, and all of the unread text has been searched. -/
  | missing (hno : ∀ b, c.Ahead b → ∃ e, terminator b = .error e) :
      FirstSuccess terminator c (.error (.expectTerminator (String.ofList c.rest)))
  /-- It diverges at `b`. -/
  | diverges {b : Cursor} (hahead : c.Ahead b) (hb : terminator b = .diverge)
      (hno : FailsBefore terminator c b) : FirstSuccess terminator c .diverge

theorem upTo_firstSuccess (terminator : Parser α) (c : Cursor) :
    FirstSuccess terminator c (upTo terminator c) := by
  rw [upTo]
  rcases scan_first terminator (.expectTerminator (String.ofList c.rest)) c.past c.rest with
    ⟨passed, rest, v, d, hrest, hscan, hv, hno⟩ | ⟨hscan, hno⟩ | ⟨b, hscan, hb, hdiverge, hno⟩
  · have hreach : c.Reaches ⟨passed.reverse ++ c.past, rest⟩ := ⟨passed, hrest, rfl⟩
    rw [hscan]
    refine .found hreach.ahead hv hno ?_ ?_ ?_
    · rw [String.toList_ofList]
      exact hreach.slice?_eq hrest
    · rw [String.toList_ofList]
      exact hreach.takeBytes?_eq hrest
    · rw [String.toList_ofList]
      exact hrest
  · rw [hscan]
    exact .missing hno
  · rw [hscan]
    exact .diverges hb hdiverge hno

/-- **A search stops at the first success of its terminator.**  It succeeds exactly if the terminator
succeeds at some boundary from `c` on, up to and including the end of the text, and returns at all
boundaries before that one.  What it reports is then the text up to the first such boundary, and the
value that the terminator has there and would have again; if the terminator fails everywhere, the
error carries all of the unread text.  With a terminator that always returns there is no third
case. -/
theorem upTo_first (terminator : Parser α) (c : Cursor) :
    ((∃ u b, upTo terminator c = .ok u b) ↔
      ∃ b v d, c.Ahead b ∧ terminator b = .ok v d ∧
        ∀ b', c.Ahead b' → b'.position < b.position → terminator b' ≠ .diverge) ∧
    FirstSuccess terminator c (upTo terminator c) := by
  have hfirst := upTo_firstSuccess terminator c
  refine ⟨⟨?_, ?_⟩, hfirst⟩
  · rintro ⟨u, b, hu⟩
    rw [hu] at hfirst
    cases hfirst with
    | @found scanned v b d hahead hv hno _ _ _ =>
      refine ⟨b, v, d, hahead, hv, fun b' hb' hlt hdiverge => ?_⟩
      obtain ⟨e, he⟩ := hno b' hb' hlt
      simp [hdiverge] at he
  · rintro ⟨b, v, d, hb, hv, hreturns⟩
    cases ho : upTo terminator c with
    | ok u b' => exact ⟨u, b', rfl⟩
    | error e =>
      rw [ho] at hfirst
      cases hfirst with
      | missing hno =>
        obtain ⟨e, he⟩ := hno b hb
        simp [hv] at he
    | diverge =>
      rw [ho] at hfirst
      cases hfirst with
      | @diverges b' hb' hdiverge hno =>
        -- the place of the divergence is neither before nor behind that of the success
        rcases Nat.lt_trichotomy b'.position b.position with hlt | heq | hlt
        · exact absurd hdiverge (hreturns b' hb' hlt)
        · rw [hb'.eq_of_position_eq hb heq, hv] at hdiverge
          simp at hdiverge
        · obtain ⟨e, he⟩ := hno b hb hlt
          simp [hv] at he

/-- A search from the middle of a text, over characters of several bytes.  The terminator fails at
three boundaries and then succeeds in front of the first of two semicolons. -/
theorem upTo_first_semicolons :
    upTo (char ';') ⟨['x'], "é日b;;".toList⟩ =
      .ok ("é日b", ';') ⟨"b日éx".toList, ";;".toList⟩ ∧
    FailsBefore (char ';') ⟨['x'], "é日b;;".toList⟩ ⟨"b日éx".toList, ";;".toList⟩ ∧
    Text.slice? 1 7 "xé日b;;".toList = some "é日b".toList := by
  have hok : upTo (char ';') ⟨['x'], "é日b;;".toList⟩ =
      .ok ("é日b", ';') ⟨"b日éx".toList, ";;".toList⟩ := rfl
  have hfirst := (upTo_first (char ';') ⟨['x'], "é日b;;".toList⟩).2
  rw [hok] at hfirst
  cases hfirst with
  | found _ _ hno hslice _ _ => exact ⟨hok, hno, hslice⟩

end Parser

end Backtrack
