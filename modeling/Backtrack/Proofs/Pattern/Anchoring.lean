import Backtrack.Proofs.Pattern.Conforming

/-!
# What anchoring does to a pattern

A pattern is anchored as a text: an anchor and an opening bracket are written in front of its source
and a closing bracket behind it, and the library makes a new expression from the result.  This is
harmless for what is matched, since an anchor at the beginning of the text holds and a group matches
what is in it.  It is not harmless for the question of what is a pattern:

* a comment at the end of the source swallows the closing bracket, and the group remains open,
  although the source by itself is an expression;
* a closing bracket in the source that has nothing to close, closes the group instead, and what
  follows it may come to terms with the bracket at the end, although the source by itself is no
  expression;
* an expression of nearly the greatest size is too large when it is anchored.

`of?_anchors` says that nothing else can happen, with any library that is documented and whose rules
are obeyed on the source.
-/

set_option autoImplicit false

namespace Backtrack

namespace Pattern

open Dialect

theorem toList_anchored (source : String) :
    (anchored source).toList = '^' :: grouped source.toList := by
  simp [anchored, grouped, opened]

section

variable {L : RegexLibrary} {D : Dialect} {source : String} {p : Pattern}

theorem isSome_of?_iff (h : L.Documented D) :
    (of? L source).isSome ↔
      D.WellFormed ('^' :: grouped source.toList) ∧ D.Fits (anchored source).toList := by
  rw [of?, Option.isSome_map, h.isSome_compile?_iff, toList_anchored]

theorem ofExpr?_eq_of? (h : L.Documented D) {r : L.Expr} (hr : L.compile? source = some r) :
    ofExpr? L r = of? L source := by
  rw [ofExpr?, h.source_eq hr]

/-- What is read at a cursor is what the source prefers to match there: the match that the anchored
expression prefers, and the anchor and the group make no difference to it. -/
theorem preferredMatch_of (h : L.Documented D) (hrules : D.Lawful source.toList)
    (hs : D.WellFormed source.toList) (hp : of? L source = some p) (c : Cursor) :
    PreferredMatch D source.toList c (p.parser c) := by
  have hanchored : D.WellFormed ('^' :: grouped source.toList) :=
    ((isSome_of?_iff h).1 (Option.isSome_of_eq_some hp)).1
  obtain ⟨r, hr, rfl⟩ := Option.map_eq_some_iff.1 hp
  have hread := h.preferredMatch hr (L.source r) c
  rw [toList_anchored] at hread
  exact hread.congr (hrules.preferred?_anchored hs hanchored c.rest)

end

/-- **Anchoring keeps what a pattern matches, and nearly what is a pattern.**  A source that is an
expression by itself can be anchored unless it swallows the closing bracket or leaves no room for
what is added, and then what is read at a cursor is what the source by itself prefers to match at the
beginning of the rest.  It makes no difference if an expression is made from the source first.  A
source that is no expression by itself can be anchored only if it has a bracket that closes the group
early. -/
theorem of?_anchors {L : RegexLibrary} {D : Dialect} (h : L.Documented D) (source : String)
    (hrules : D.Lawful source.toList) :
    (D.WellFormed source.toList →
      ((of? L source).isSome ↔
        ¬ D.WellFormed (source.toList ++ [')']) ∧ D.Fits (anchored source).toList) ∧
      ∀ p, of? L source = some p → ∀ c, PreferredMatch D source.toList c (p.parser c)) ∧
    (∀ r, L.compile? source = some r →
      ofExpr? L r = of? L source ∧
      ∀ p, of? L source = some p → ∀ c, p.parser c = parser ⟨source, L.find? r⟩ c) ∧
    (¬ D.WellFormed source.toList → (of? L source).isSome →
      ∃ x after, source.toList = x ++ ')' :: after ∧ D.WellFormed x ∧ ¬ D.EndsInComment x) := by
  refine ⟨fun hs => ⟨?_, fun p hp => preferredMatch_of h hrules hs hp⟩, fun r hr => ⟨?_, ?_⟩, ?_⟩
  · rw [isSome_of?_iff h, hrules.wellFormed_anchored_iff hs]
  · exact ofExpr?_eq_of? h hr
  · intro p hp c
    have hs : D.WellFormed source.toList :=
      (h.isSome_compile?_iff.1 (Option.isSome_of_eq_some hr)).1
    exact (preferredMatch_of h hrules hs hp c).unique (h.preferredMatch hr source c)
  · intro hs hsome
    exact hrules.closes_early hs ((isSome_of?_iff h).1 hsome).1

/-- A comment that has an end does no harm. -/
theorem of?_anchors_endedComment :
    ∃ p, ofSource? "(?x)(a|b)+ # c\n" = some p ∧
      ∀ c : Cursor, c.rest = "abc".toList →
        p.parser c = .ok "ab" (c.moveTo "ab".toList "c".toList) := by
  have hs : dialect.WellFormed "(?x)(a|b)+ # c\n".toList := rfl
  have hbracket : ¬ dialect.WellFormed ("(?x)(a|b)+ # c\n".toList ++ [')']) := Bool.false_ne_true
  have hfits : dialect.Fits (anchored "(?x)(a|b)+ # c\n").toList := ⟨_, rfl, by decide⟩
  have hrules : dialect.Lawful "(?x)(a|b)+ # c\n".toList := lawful_of_wellFormed hs
  obtain ⟨hkept, -, -⟩ := of?_anchors library_documented "(?x)(a|b)+ # c\n" hrules
  obtain ⟨hsome, hread⟩ := hkept hs
  obtain ⟨p, hp⟩ := Option.isSome_iff_exists.1 (hsome.2 ⟨hbracket, hfits⟩)
  refine ⟨p, hp, fun c hc => (hread p hp c).unique ?_⟩
  have hpreferred : dialect.preferred? "(?x)(a|b)+ # c\n".toList [] c.rest =
      some "ab".toList := by
    rw [hc]
    rfl
  exact .found hpreferred hc

/-- The bracket of this source closes the group that is opened in front of it. -/
theorem lawful_strayBracket : dialect.Lawful "a)|(?:b".toList :=
  have hs : ¬ dialect.WellFormed "a)|(?:b".toList := Bool.false_ne_true
  { exists_closed := fun _ => ⟨"a".toList, "|(?:b)".toList, rfl, rfl, Bool.false_ne_true⟩
    grouped_iff := fun h => absurd h hs
    bracket_iff := fun h => absurd h hs
    anchor_iff := ⟨fun _ => rfl, fun _ => rfl⟩
    preferred?_grouped := fun h => absurd h hs
    preferred?_anchor := fun h => absurd h hs }

/-- Neither are all patterns kept, since a comment without an end swallows the bracket, nor is
everything else refused, since a stray bracket closes the group. -/
theorem not_isSome_of?_iff :
    ¬ (∀ (L : RegexLibrary) (D : Dialect), L.Documented D → ∀ source : String,
      D.Lawful source.toList → (of? L source).isSome → (L.compile? source).isSome) ∧
    ¬ (∀ (L : RegexLibrary) (D : Dialect), L.Documented D → ∀ source : String,
      D.Lawful source.toList → (L.compile? source).isSome → (of? L source).isSome) := by
  constructor
  · intro h
    have hstray : (library.compile? "a)|(?:b").isSome :=
      h library dialect library_documented "a)|(?:b" lawful_strayBracket rfl
    cases hstray
  · intro h
    have hcomment : (of? library "(?x)a # c").isSome :=
      h library dialect library_documented "(?x)a # c" (lawful_of_wellFormed rfl) rfl
    cases hcomment

end Pattern

end Backtrack
