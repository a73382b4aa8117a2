import Backtrack.Proofs.Pattern.Closing.Items
import Backtrack.Proofs.Pattern.Dialect

/-!
# The library at hand

The library with which patterns are run has a dialect of its own: what its reader reads, and what
its matcher prefers.  It behaves as this dialect says (`library_documented`), since the search goes
from left to right and takes the first place where there is a match.

The dialect obeys the rules for groups, anchors and comments on every text in which no bracket
strays (`lawful_of_not_strays`).  This rests on `items?_carries`, which follows the bracket behind a
text through the reading of the text: it is left over, and closes the group that was opened in front
of the text, or it is swallowed.
-/

set_option autoImplicit false

namespace Backtrack

/-! ## Searching -/

namespace Regex

variable {r : Regex} {s : Text}

theorem getLast?_foldl_add {found : Found} (h : found ≠ []) (ps : List Place) :
    (ps.foldl Found.add found).getLast? = found.getLast? := by
  induction ps generalizing found with
  | nil => rfl
  | cons p ps ih =>
    rw [List.foldl_cons]
    by_cases hp : found.any fun q => q.used == p.used
    · rw [Found.add, if_pos hp]
      exact ih h
    · rw [Found.add, if_neg hp, ih (List.cons_ne_nil p found), List.getLast?_cons_of_ne_nil h]

/-- The preferred end stays the preferred one. -/
theorem head?_distinct (ps : List Place) : (distinct ps).head? = ps.head? := by
  rcases ps with _ | ⟨p, ps⟩
  · rfl
  · show (ps.foldl Found.add [p]).reverse.head? = some p
    rw [List.head?_reverse, getLast?_foldl_add (List.cons_ne_nil p [])]
    rfl

/-- Behind an anchor there is a match at the beginning of the text only. -/
theorem matchLength?_anchor (r : Regex) (before : Option Char) (s : Text) :
    (seq (look .textStart) r).matchLength? before s =
      if before = none then r.matchLength? before s else none := by
  rcases before with _ | c
  · have hends : (seq (look .textStart) r).ends ⟨0, none, s⟩ = distinct (r.ends ⟨0, none, s⟩) := by
      show distinct (([⟨0, none, s⟩] : List Place).flatMap r.ends) = _
      rw [List.flatMap_singleton]
    rw [if_pos rfl, matchLength?, matchLength?, hends, head?_distinct]
  · rfl

/-- The character in front of a place: the last one of the text before it, or else the one in front
of the whole. -/
def lastChar (before : Option Char) (t : Text) : Option Char := t.getLast?.or before

@[simp]
theorem lastChar_nil (before : Option Char) : lastChar before [] = before := rfl

@[simp]
theorem lastChar_cons (before : Option Char) (x : Char) (t : Text) :
    lastChar before (x :: t) = lastChar (some x) t := by
  rw [lastChar, lastChar, List.getLast?_cons]
  cases t.getLast? with
  | none => rfl
  | some y => rfl

/-- **The leftmost match is found.** -/
theorem search?_eq_some {before : Option Char} {i n : Nat} (h : r.search? before s = some (i, n)) :
    r.matchLength? (lastChar before (s.take i)) (s.drop i) = some n ∧
      ∀ {t rest : Text}, s = t ++ rest → t.length < i →
        r.matchLength? (lastChar before t) rest = none := by
  induction s generalizing before i with
  | nil =>
    rw [search?] at h
    split at h
    · next m hm =>
      obtain ⟨rfl, rfl⟩ : 0 = i ∧ m = n := by simpa using h
      exact ⟨hm, fun _ hlt => absurd hlt (Nat.not_lt_zero _)⟩
    · cases h
  | cons x s ih =>
    rw [search?] at h
    split at h
    · next m hm =>
      obtain ⟨rfl, rfl⟩ : 0 = i ∧ m = n := by simpa using h
      exact ⟨hm, fun _ hlt => absurd hlt (Nat.not_lt_zero _)⟩
    · next hhere =>
      obtain ⟨⟨k, m⟩, hk, heq⟩ := Option.map_eq_some_iff.1 h
      obtain ⟨rfl, rfl⟩ := Prod.mk.inj heq
      obtain ⟨hmatch, hleft⟩ := ih hk
      refine ⟨by simpa using hmatch, ?_⟩
      rintro (_ | ⟨y, t⟩) rest hs hlt
      · rw [List.nil_append] at hs
        rw [← hs, lastChar_nil]
        exact hhere
      · rw [List.cons_append, List.cons.injEq] at hs
        obtain ⟨rfl, hs⟩ := hs
        rw [lastChar_cons]
        exact hleft hs (Nat.lt_of_succ_lt_succ hlt)

/-- If no match is found, there is none. -/
theorem search?_eq_none {before : Option Char} (h : r.search? before s = none) {t rest : Text}
    (hs : s = t ++ rest) : r.matchLength? (lastChar before t) rest = none := by
  induction s generalizing before t with
  | nil =>
    rw [search?] at h
    split at h
    · cases h
    · next hhere =>
      obtain ⟨rfl, rfl⟩ := List.append_eq_nil_iff.1 hs.symm
      exact hhere
  | cons x s ih =>
    rw [search?] at h
    split at h
    · cases h
    · next hhere =>
      rcases t with _ | ⟨y, t⟩
      · rw [List.nil_append] at hs
        rw [← hs, lastChar_nil]
        exact hhere
      · rw [List.cons_append, List.cons.injEq] at hs
        obtain ⟨rfl, hs⟩ := hs
        rw [lastChar_cons]
        exact ih (Option.map_eq_none_iff.1 h) hs

end Regex

namespace Pattern

open Reader Dialect

/-! ## The dialect -/

/-- What the reader reads, and what the matcher prefers. -/
def dialect : Dialect where
  WellFormed s := (describe? s).isSome
  Fits s := ∃ i, describe? s = some i ∧ i.fits
  EndsInComment s := (describe? (s ++ [')'])).isSome
  preferred? s before rest :=
    (describe? s).bind fun i => (i.regex.matchLength? before.getLast? rest).map rest.take

theorem preferred?_eq {s : Text} {i : Item} (h : describe? s = some i) (before rest : Text) :
    dialect.preferred? s before rest =
      (i.regex.matchLength? before.getLast? rest).map rest.take := by
  show (describe? s).bind _ = _
  rw [h, Option.bind_some]

theorem compile?_eq_some {source : String} {r : Compiled} (h : library.compile? source = some r) :
    ∃ i, describe? source.toList = some i ∧ i.fits ∧ r = ⟨source, i.regex⟩ := by
  obtain ⟨regex, hread, rfl⟩ := Option.map_eq_some_iff.1 h
  obtain ⟨i, hi, hregex⟩ := Option.bind_eq_some_iff.1 hread
  obtain ⟨hfits, hregex⟩ := Option.ite_none_right_eq_some.1 hregex
  exact ⟨i, hi, hfits, by rw [← Option.some.inj hregex]⟩

/-- **The library behaves as its dialect says.** -/
theorem library_documented : library.Documented dialect where
  isSome_compile?_iff := by
    intro source
    constructor
    · intro h
      obtain ⟨r, hr⟩ := Option.isSome_iff_exists.1 h
      obtain ⟨i, hi, hfits, -⟩ := compile?_eq_some hr
      exact ⟨Option.isSome_of_eq_some hi, i, hi, hfits⟩
    · rintro ⟨-, i, hi, hfits⟩
      show ((read? source.toList).map _).isSome
      rw [read?, hi, Option.bind_some, if_pos hfits]
      rfl
  source_eq := by
    intro source r hr
    obtain ⟨i, -, -, rfl⟩ := compile?_eq_some hr
    rfl
  find?_eq_some := by
    intro source r s m hr hm
    obtain ⟨i, hi, -, rfl⟩ := compile?_eq_some hr
    obtain ⟨⟨k, n⟩, hk, rfl⟩ := Option.map_eq_some_iff.1 hm
    obtain ⟨hmatch, hleft⟩ := Regex.search?_eq_some hk
    constructor
    · rw [Regex.lastChar, Option.or_none] at hmatch
      rw [preferred?_eq hi, List.take_append_drop, hmatch]
      rfl
    · intro before rest hs hlt
      have hlt : before.length < k := Nat.lt_of_lt_of_le hlt (List.length_take_le k s)
      have hnone := hleft hs hlt
      rw [Regex.lastChar, Option.or_none] at hnone
      rw [preferred?_eq hi, hnone]
      rfl
  find?_eq_none := by
    intro source r s hr hm before rest hs
    obtain ⟨i, hi, -, rfl⟩ := compile?_eq_some hr
    have hnone := Regex.search?_eq_none (Option.map_eq_none_iff.1 hm) hs
    rw [Regex.lastChar, Option.or_none] at hnone
    rw [preferred?_eq hi, hnone]
    rfl

/-! ## What a text describes -/

variable {s : Text} {g : OpenGroup}

/-- What a text says when it is read from its beginning, and what is left of it. -/
def outline? (source : Text) : Option (OpenGroup × Text) :=
  items? (source.length + 1) (.new .default []) source

/-- A bracket of the text closes what the text has not opened. -/
def Strays (source : Text) : Prop := ∃ g t, outline? source = some (g, ')' :: t)

/-- A bracket behind the text is taken for a part of it. -/
def Swallows (source : Text) : Prop := ∃ g, outline? (source ++ [')']) = some (g, [])

theorem describe?_eq_some_iff {i : Item} :
    describe? s = some i ↔ ∃ g, outline? s = some (g, []) ∧ g.close = i := by
  rw [describe?, ← outline?]
  constructor
  · intro h
    split at h
    · next g hg => exact ⟨g, hg, Option.some.inj h⟩
    · cases h
  · rintro ⟨g, hg, rfl⟩
    simp only [hg]

theorem endsInComment_iff : dialect.EndsInComment s ↔ Swallows s := by
  show (describe? (s ++ [')'])).isSome ↔ _
  rw [Option.isSome_iff_exists]
  constructor
  · rintro ⟨i, hi⟩
    obtain ⟨g, hg, -⟩ := describe?_eq_some_iff.1 hi
    exact ⟨g, hg⟩
  · rintro ⟨g, hg⟩
    exact ⟨g.close, describe?_eq_some_iff.2 ⟨g, hg, rfl⟩⟩

/-! ## The bracket behind the text -/

/-- What is left of a text is left of it however many steps are allowed. -/
theorem items?_ne_nil {g g' h : OpenGroup} {c : Char} {t : Text} {n n' : Nat} (hn : s.length < n)
    (hn' : s.length < n') (hleft : items? n g s = some (h, c :: t)) :
    items? n' g s ≠ some (g', []) := by
  intro hnil
  have hcarries := items?_carries (.refl s) g hn hn'
  rw [hleft, hnil] at hcarries
  obtain ⟨r, hr, hb⟩ := hcarries.of_some
  obtain ⟨-, rfl⟩ : g' = h ∧ [] = r := by simpa using hr
  exact nomatch hb.closing

theorem outline?_carries (s : Text) {n : Nat} (hn : s.length + 1 < n) :
    Carries s (s ++ [')']) (outline? s) (items? n (.new .default []) (s ++ [')'])) := by
  have hn' : (s ++ [')']).length < n := by simpa using hn
  exact items?_carries (.append_bracket s) _ (Nat.lt_succ_self _) hn'

/-- A bracket behind a text that ends as it should is left over or read. -/
theorem items?_append_bracket (hs : outline? s = some (g, [])) {n : Nat} (hn : s.length + 1 < n) :
    items? n (.new .default []) (s ++ [')']) = some (g, [')']) ∨
      items? n (.new .default []) (s ++ [')']) = some (g, []) := by
  have hcarries := outline?_carries s hn
  rw [hs] at hcarries
  obtain ⟨r, hr, hb⟩ := hcarries.of_some
  rcases hb.closing with _ | _
  · exact .inr hr
  · exact .inl hr

/-- **The bracket closes what is in front of it** exactly if that is a whole text which does not
swallow it, unless a bracket of the text has closed it before. -/
theorem items?_append_bracket_eq_iff (hstray : ¬ Strays s) {n : Nat} (hn : s.length + 1 < n)
    {t : Text} :
    items? n (.new .default []) (s ++ [')']) = some (g, ')' :: t) ↔
      t = [] ∧ outline? s = some (g, []) ∧ ¬ Swallows s := by
  have hlength : (s ++ [')']).length = s.length + 1 := by simp
  constructor
  · intro h
    have hcarries := outline?_carries s hn
    rw [h] at hcarries
    obtain ⟨r, hr, hb⟩ := hcarries.of_cons
    rcases hb.closing with _ | _ | ⟨_, hu⟩
    · exact ⟨rfl, hr, fun ⟨g', hg'⟩ => items?_ne_nil (by omega) (by omega) h hg'⟩
    · exact absurd ⟨g, _, hr⟩ hstray
  · rintro ⟨rfl, hs, hswallows⟩
    have houtline : outline? (s ++ [')']) = some (g, [')']) :=
      (items?_append_bracket hs (by omega)).resolve_right fun h => hswallows ⟨g, h⟩
    exact (items?_append_bracket hs hn).resolve_right
      (items?_ne_nil (by omega) (by omega) houtline)

/-! ## Groups and anchors -/

/-- The group into which a text is made, read behind what `g` holds. -/
def afterGroup? (g : OpenGroup) (s : Text) : Option (OpenGroup × Text) :=
  group? (items? (s.length + 4)) g (.group .default [], s ++ [')'])

theorem outline?_grouped (s : Text) :
    outline? (grouped s) = afterGroup? (.new .default []) s := by
  have hlength : (grouped s).length + 1 = s.length + 4 + 1 := by simp [grouped, opened]
  rw [outline?, hlength]
  rfl

theorem outline?_anchored (s : Text) :
    outline? ('^' :: grouped s) =
      afterGroup? ((OpenGroup.new .default []).add (.look .textStart) 0) s := by
  have hlength : ('^' :: grouped s).length + 1 = s.length + 4 + 1 + 1 := by simp [grouped, opened]
  rw [outline?, hlength]
  rfl

/-- What is in the group is what the text says, if the bracket is not swallowed. -/
theorem afterGroup?_eq_iff (hstray : ¬ Strays s) {g h : OpenGroup} :
    afterGroup? g s = some (h, []) ↔
      ¬ Swallows s ∧ ∃ inner, outline? s = some (inner, []) ∧
        { g with names := inner.names }.add inner.close.regex (inner.close.depth + 1) = h := by
  constructor
  · intro hg
    rw [afterGroup?, group?] at hg
    split at hg
    · next inner t hinner =>
      obtain ⟨rfl, hs, hswallows⟩ := (items?_append_bracket_eq_iff hstray (by omega)).1 hinner
      rw [items?_nil _ (Flags.skip_nil _)] at hg
      cases hg
      exact ⟨hswallows, inner, hs, rfl⟩
    · cases hg
  · rintro ⟨hswallows, inner, hs, rfl⟩
    have hinner : items? (s.length + 4) (.new .default []) (s ++ [')']) = some (inner, [')']) :=
      (items?_append_bracket_eq_iff hstray (by omega)).2 ⟨rfl, hs, hswallows⟩
    rw [afterGroup?, group?, hinner]
    exact items?_nil _ (Flags.skip_nil _)

/-- The item that `t` describes is made from the one that `s` describes, unless `s` swallows a bracket
behind it. -/
def Wraps (wrap : Item → Item) (t s : Text) : Prop :=
  ∀ i, describe? t = some i ↔ ¬ Swallows s ∧ ∃ j, describe? s = some j ∧ wrap j = i

theorem wraps_of_outline?_eq (hstray : ¬ Strays s) {wrap : Item → Item} {t : Text}
    (ht : outline? t = afterGroup? g s)
    (hclose : ∀ inner : OpenGroup,
      ({ g with names := inner.names }.add inner.close.regex (inner.close.depth + 1)).close =
        wrap inner.close) : Wraps wrap t s := by
  intro i
  rw [describe?_eq_some_iff, ht]
  constructor
  · rintro ⟨h, hh, rfl⟩
    obtain ⟨hswallows, inner, hs, rfl⟩ := (afterGroup?_eq_iff hstray).1 hh
    exact ⟨hswallows, _, describe?_eq_some_iff.2 ⟨inner, hs, rfl⟩, (hclose inner).symm⟩
  · rintro ⟨hswallows, j, hj, rfl⟩
    obtain ⟨inner, hs, rfl⟩ := describe?_eq_some_iff.1 hj
    exact ⟨_, (afterGroup?_eq_iff hstray).2 ⟨hswallows, inner, hs, rfl⟩, hclose inner⟩

theorem Wraps.wellFormed_iff {wrap : Item → Item} {t : Text} (h : Wraps wrap t s) :
    dialect.WellFormed t ↔ ¬ Swallows s ∧ dialect.WellFormed s := by
  show (describe? t).isSome ↔ ¬ Swallows s ∧ (describe? s).isSome
  rw [Option.isSome_iff_exists, Option.isSome_iff_exists]
  constructor
  · rintro ⟨i, hi⟩
    obtain ⟨hswallows, j, hj, -⟩ := (h i).1 hi
    exact ⟨hswallows, j, hj⟩
  · rintro ⟨hswallows, j, hj⟩
    exact ⟨wrap j, (h _).2 ⟨hswallows, j, hj, rfl⟩⟩

theorem wraps_grouped (hstray : ¬ Strays s) :
    Wraps (fun j => ⟨j.regex, j.depth + 1, true⟩) (grouped s) s := by
  refine wraps_of_outline?_eq hstray (outline?_grouped s) fun inner => ?_
  simp [OpenGroup.close, OpenGroup.branch, OpenGroup.add, OpenGroup.new, OpenGroup.depthOf,
    OpenGroup.sequence]

theorem wraps_anchored (hstray : ¬ Strays s) :
    Wraps (fun j => ⟨.seq (.look .textStart) j.regex, j.depth + 2, true⟩) ('^' :: grouped s) s := by
  refine wraps_of_outline?_eq hstray (outline?_anchored s) fun inner => ?_
  simp [OpenGroup.close, OpenGroup.branch, OpenGroup.add, OpenGroup.new, OpenGroup.depthOf,
    OpenGroup.sequence]

/-- **The dialect obeys the rules where no bracket strays.** -/
theorem lawful_of_not_strays (hstray : ¬ Strays s) : dialect.Lawful s where
  exists_closed := by
    intro h
    obtain ⟨hswallows, hs⟩ := (wraps_grouped hstray).wellFormed_iff.1 h
    exact ⟨s, [], rfl, hs, mt endsInComment_iff.1 hswallows⟩
  grouped_iff := by
    intro hs
    rw [(wraps_grouped hstray).wellFormed_iff, endsInComment_iff]
    exact and_iff_left hs
  bracket_iff := fun _ => Iff.rfl
  anchor_iff := (wraps_anchored hstray).wellFormed_iff.trans (wraps_grouped hstray).wellFormed_iff.symm
  preferred?_grouped := by
    intro before rest hs hgrouped
    obtain ⟨i, hi⟩ := Option.isSome_iff_exists.1 hgrouped
    obtain ⟨-, j, hj, rfl⟩ := (wraps_grouped hstray i).1 hi
    rw [preferred?_eq hi, preferred?_eq hj]
  preferred?_anchor := by
    intro before rest hs hgrouped
    obtain ⟨i, hi⟩ := Option.isSome_iff_exists.1 hgrouped
    obtain ⟨hswallows, j, hj, rfl⟩ := (wraps_grouped hstray i).1 hi
    have hanchored := (wraps_anchored hstray _).2 ⟨hswallows, j, hj, rfl⟩
    rw [preferred?_eq hanchored, preferred?_eq hi, Regex.matchLength?_anchor]
    simp only [List.getLast?_eq_none_iff]
    split
    · rfl
    · rfl

theorem lawful_of_wellFormed (hs : dialect.WellFormed s) : dialect.Lawful s := by
  refine lawful_of_not_strays ?_
  rintro ⟨h, t, hh⟩
  obtain ⟨i, hi⟩ := Option.isSome_iff_exists.1 hs
  obtain ⟨g, hg, -⟩ := describe?_eq_some_iff.1 hi
  rw [hg] at hh
  cases hh

end Pattern

end Backtrack
