import Backtrack.Pattern.Basic

/-!
# What a library of regular expressions promises

A library comes with a documentation, and what a parser can rely on is what is written there.  Here
it is written down as far as anchoring needs it.

* `Dialect` — what the documentation speaks of: which texts are expressions, and what they match;
* `RegexLibrary.Documented` — a library accepts the expressions of a dialect, within its limits, and
  finds the leftmost match, and of the matches there the one that is preferred;
* `Dialect.Lawful` — the rules for groups, anchors and comments, each of them by itself, and only for
  the text at hand.

From this it follows what a pattern reads at the cursor, whatever expression it was made from
(`Documented.preferredMatch`), that the anchor does not change it (`Lawful.preferred?_anchored`), and
which sources can be anchored (`Lawful.wellFormed_anchored_iff`, `Lawful.closes_early`).
-/

set_option autoImplicit false

namespace Backtrack

/-- The syntax of regular expressions, and what they match. -/
structure Dialect where
  /-- The text is an expression by the rules of the syntax, however large it is. -/
  WellFormed : Text → Prop
  /-- The text keeps to the limits on size and nesting. -/
  Fits : Text → Prop
  /-- The text ends inside a comment. -/
  EndsInComment : Text → Prop
  /-- What an expression matches at a place with `before` in front of it and `rest` behind it.  Of
  the texts that it can match there, this is the one that is preferred. -/
  preferred? : (source before rest : Text) → Option Text

/-- The library behaves as its documentation says. -/
structure RegexLibrary.Documented (L : RegexLibrary) (D : Dialect) : Prop where
  /-- A source is accepted exactly if it is an expression and keeps to the limits. -/
  isSome_compile?_iff {source : String} :
    (L.compile? source).isSome ↔ D.WellFormed source.toList ∧ D.Fits source.toList
  /-- An expression knows its source. -/
  source_eq {source : String} {r : L.Expr} : L.compile? source = some r → L.source r = source
  /-- A match that is found is preferred where it is, and there is none further to the left. -/
  find?_eq_some {source : String} {r : L.Expr} {s : Text} {m : Match s} :
    L.compile? source = some r → L.find? r s = some m →
      D.preferred? source.toList m.before (m.matched ++ m.after) = some m.matched ∧
        ∀ {before rest : Text}, s = before ++ rest → before.length < m.before.length →
          D.preferred? source.toList before rest = none
  /-- If no match is found, there is none. -/
  find?_eq_none {source : String} {r : L.Expr} {s : Text} :
    L.compile? source = some r → L.find? r s = none →
      ∀ {before rest : Text}, s = before ++ rest →
        D.preferred? source.toList before rest = none

namespace Dialect

/-- A group is opened in front of a text. -/
def opened (t : Text) : Text := '(' :: '?' :: ':' :: t

/-- A text as a group. -/
def grouped (s : Text) : Text := opened (s ++ [')'])

/-- The rules of a dialect, where they are about the text `s`. -/
structure Lawful (D : Dialect) (s : Text) : Prop where
  /-- A group that has been opened is closed by a bracket outside comments, and what stands in front
  of this bracket is an expression. -/
  exists_closed : D.WellFormed (grouped s) →
    ∃ x after, s ++ [')'] = x ++ ')' :: after ∧ D.WellFormed x ∧ ¬ D.EndsInComment x
  /-- An expression can be made a group, but a bracket in a comment does not close it. -/
  grouped_iff : D.WellFormed s → (D.WellFormed (grouped s) ↔ ¬ D.EndsInComment s)
  /-- A bracket that closes no group can stand behind an expression only in a comment. -/
  bracket_iff : D.WellFormed s → (D.WellFormed (s ++ [')']) ↔ D.EndsInComment s)
  /-- An anchor may stand in front of a group. -/
  anchor_iff : D.WellFormed ('^' :: grouped s) ↔ D.WellFormed (grouped s)
  /-- A group matches what is in it. -/
  preferred?_grouped {before rest : Text} : D.WellFormed s → D.WellFormed (grouped s) →
    D.preferred? (grouped s) before rest = D.preferred? s before rest
  /-- An anchor matches at the beginning of the text, and what follows it is matched there. -/
  preferred?_anchor {before rest : Text} : D.WellFormed s → D.WellFormed (grouped s) →
    D.preferred? ('^' :: grouped s) before rest =
      if before = [] then D.preferred? (grouped s) before rest else none

end Dialect

/-! ## What is read at a cursor -/

/-- What comes of reading an expression at `c`: the match that is preferred there, or a mismatch if
it does not match there. -/
inductive PreferredMatch (D : Dialect) (source : Text) (c : Cursor) : Outcome String → Prop
  /-- The expression matches at the cursor. -/
  | found {w after : Text} (h : D.preferred? source [] c.rest = some w)
      (hrest : c.rest = w ++ after) :
      PreferredMatch D source c (.ok (String.ofList w) (c.moveTo w after))
  /-- The expression does not match at the cursor. -/
  | missing (h : D.preferred? source [] c.rest = none) :
      PreferredMatch D source c (.error .mismatch)

theorem PreferredMatch.unique {D : Dialect} {source : Text} {c : Cursor} {o o' : Outcome String}
    (h : PreferredMatch D source c o) (h' : PreferredMatch D source c o') : o = o' := by
  cases h with
  | found h hrest =>
    cases h' with
    | found h' hrest' =>
      cases h.symm.trans h'
      rw [List.append_cancel_left (hrest.symm.trans hrest')]
    | missing h' => cases h.symm.trans h'
  | missing h =>
    cases h' with
    | found h' _ => cases h.symm.trans h'
    | missing _ => rfl

/-- What is read at a cursor depends only on what is preferred there. -/
theorem PreferredMatch.congr {D : Dialect} {source source' : Text} {c : Cursor} {o : Outcome String}
    (h : PreferredMatch D source c o)
    (heq : D.preferred? source [] c.rest = D.preferred? source' [] c.rest) :
    PreferredMatch D source' c o := by
  cases h with
  | found h hrest => exact .found (heq.symm.trans h) hrest
  | missing h => exact .missing (heq.symm.trans h)

/-- **A pattern reads the preferred match at the cursor.**  The match that is found may begin later,
but then there is none at the cursor, since the leftmost one is found. -/
theorem RegexLibrary.Documented.preferredMatch {L : RegexLibrary} {D : Dialect}
    (h : L.Documented D) {source : String} {r : L.Expr} (hr : L.compile? source = some r)
    (name : String) (c : Cursor) :
    PreferredMatch D source.toList c (Pattern.parser ⟨name, L.find? r⟩ c) := by
  cases hfind : L.find? r c.rest with
  | none =>
    simp only [Pattern.parser, hfind]
    exact .missing (h.find?_eq_none hr hfind (List.nil_append _).symm)
  | some m =>
    obtain ⟨hhere, hleft⟩ := h.find?_eq_some hr hfind
    simp only [Pattern.parser, hfind]
    split
    · next hbefore =>
      have hrest := m.eq_append
      rw [List.isEmpty_iff.1 hbefore] at hrest hhere
      rw [List.nil_append] at hrest
      rw [← hrest] at hhere
      exact .found hhere hrest
    · next hbefore =>
      refine .missing (hleft (List.nil_append _).symm ?_)
      rw [List.isEmpty_iff] at hbefore
      exact List.length_pos_iff.2 hbefore

/-! ## The anchored text -/

namespace Dialect

variable {D : Dialect} {s : Text}

/-- **An expression is kept by anchoring unless it swallows the bracket.** -/
theorem Lawful.wellFormed_anchored_iff (h : D.Lawful s) (hs : D.WellFormed s) :
    D.WellFormed ('^' :: grouped s) ↔ ¬ D.WellFormed (s ++ [')']) := by
  rw [h.bracket_iff hs]
  exact h.anchor_iff.trans (h.grouped_iff hs)

/-- At the beginning of a text the anchor can be left out. -/
theorem Lawful.preferred?_anchored (h : D.Lawful s) (hs : D.WellFormed s)
    (hanchored : D.WellFormed ('^' :: grouped s)) (rest : Text) :
    D.preferred? ('^' :: grouped s) [] rest = D.preferred? s [] rest := by
  have hgrouped := h.anchor_iff.1 hanchored
  rw [h.preferred?_anchor hs hgrouped, if_pos rfl, h.preferred?_grouped hs hgrouped]

/-- **What is not an expression must close the group early** to become one by anchoring. -/
theorem Lawful.closes_early (h : D.Lawful s) (hs : ¬ D.WellFormed s)
    (hanchored : D.WellFormed ('^' :: grouped s)) :
    ∃ x after, s = x ++ ')' :: after ∧ D.WellFormed x ∧ ¬ D.EndsInComment x := by
  obtain ⟨x, after, heq, hx, hcomment⟩ := h.exists_closed (h.anchor_iff.1 hanchored)
  rcases List.eq_nil_or_concat after with rfl | ⟨after, c, rfl⟩
  · -- the bracket that closes the group is the one behind the text
    rw [List.append_cancel_right heq] at hs
    exact absurd hx hs
  · rw [List.concat_eq_append, ← List.cons_append, ← List.append_assoc] at heq
    exact ⟨x, after, (List.append_inj' heq rfl).1, hx, hcomment⟩

end Dialect

end Backtrack
