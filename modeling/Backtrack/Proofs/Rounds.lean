import Backtrack.Proofs.Failing
import Backtrack.Proofs.Termination

/-!
# The rounds of a repetition

There are three loops: one for any number of items, one for at least one item, and one for items
with separators between them.  Each has a way of its own to give back what a failing attempt has
read, and each could get it wrong in a way of its own.  This file compares them with something that
is not a loop.

* `Rounds p c vs d` — running `p` again and again leads from `c` to `d` and yields `vs`.  It does not
  say that `p` fails at `d`, so that it can be used for a part of the way as well;
* `Rounds.many_eq` — a repetition goes on behind any rounds as it would from there.  What a
  repetition does is said by this lemma and by what its body does at the end of the rounds, whether
  that is to fail (`many_eq_ok_iff`) or to diverge (`many_eq_diverge_iff`);
* `many1_eq_map_pair`, `separatedBy1_eq_map_pair` — the other loops are a first item and a
  repetition, `many_eq_map_optional`, `separatedBy_eq_map_optional` — and the forms that may be
  empty are the others made optional.

A separator is part of the round of the item behind it.  So a separator that no item follows belongs
to a round that fails, and is not read.
-/

set_option autoImplicit false

namespace Backtrack

variable {α β γ : Type} {c d : Cursor}

@[simp] theorem Outcome.map_map (f : α → β) (g : β → γ) (o : Outcome α) :
    (o.map f).map g = o.map (g ∘ f) := by
  cases o <;> rfl

@[simp] theorem Outcome.map_id (o : Outcome α) : o.map (fun v => v) = o := by
  cases o <;> rfl

namespace Parser

open Cursor

variable {p : Parser α} {separator : Parser β} {v : α} {vs : List α} {e : ParseError}

/-! ## Bodies that leave less to read -/

/-- Where the parser succeeds, it leaves less to read. -/
def Shortens (p : Parser α) : Prop :=
  ∀ {c d : Cursor} {v : α}, p c = .ok v d → d.rest.length < c.rest.length

/-- To have read a byte of the same text is to leave less to read. -/
theorem shortens_of_position_lt
    (h : ∀ {c d : Cursor} {v : α}, p c = .ok v d →
      d.source = c.source ∧ c.position < d.position) : p.Shortens := by
  intro c d v hv
  obtain ⟨hsource, hlt⟩ := h hv
  exact (reaches_of_position_le hsource (Nat.le_of_lt hlt)).position_lt_iff.1 hlt

theorem many_of_ok (hp : p.Shortens) (hv : p c = .ok v d) :
    many p c = (many p d).map (v :: ·) := by
  rw [many, hv]
  exact if_pos (hp hv)

theorem many_of_error (h : p c = .error e) : many p c = .ok [] c := by
  rw [many, h]

theorem many_of_diverge (h : p c = .diverge) : many p c = .diverge := by
  rw [many, h]

/-! ## Rounds -/

/-- Running `p` again and again leads from the first place to the second and yields the values. -/
inductive Rounds (p : Parser α) : Cursor → List α → Cursor → Prop
  /-- No round. -/
  | nil (c : Cursor) : Rounds p c [] c
  /-- One round, and then others from where it stopped. -/
  | cons {c b d : Cursor} {v : α} {vs : List α} (hv : p c = .ok v b) (h : Rounds p b vs d) :
      Rounds p c (v :: vs) d

/-- **A repetition goes on behind its rounds.** -/
theorem Rounds.many_eq (hp : p.Shortens) (h : Rounds p c vs d) :
    many p c = (many p d).map (vs ++ ·) := by
  induction h with
  | nil c => simp only [List.nil_append, Outcome.map_id]
  | cons hv _ ih =>
    rw [many_of_ok hp hv, ih, Outcome.map_map]
    rfl

/-- What a repetition yields comes from rounds. -/
theorem rounds_of_many_eq_ok (h : many p c = .ok vs d) : Rounds p c vs d := by
  induction vs generalizing c with
  | nil =>
    rcases many_eq_ok h with ⟨-, -, rfl⟩ | ⟨v, b, vs', -, -, -, hvs⟩
    · exact .nil _
    · simp at hvs
  | cons v vs ih =>
    rcases many_eq_ok h with ⟨-, hvs, -⟩ | ⟨v', b, vs', hv, -, hmany, hvs⟩
    · simp at hvs
    · obtain ⟨rfl, rfl⟩ := List.cons.inj hvs
      exact .cons hv (ih hmany)

/-- **A repetition succeeds with the rounds that end in front of a failure.** -/
theorem many_eq_ok_iff (hp : p.Shortens) :
    many p c = .ok vs d ↔ Rounds p c vs d ∧ ∃ e, p d = .error e := by
  constructor
  · intro h
    exact ⟨rounds_of_many_eq_ok h, many_stops h⟩
  · rintro ⟨hrounds, e, he⟩
    rw [hrounds.many_eq hp, many_of_error he, Outcome.map, List.append_nil]

/-- **A repetition diverges where its body does**, at the end of some rounds. -/
theorem many_eq_diverge_iff (hp : p.Shortens) :
    many p c = .diverge ↔ ∃ vs d, Rounds p c vs d ∧ p d = .diverge := by
  constructor
  · intro h
    fun_induction many p c with
    | case1 c v b hv hlt ih =>
      have hmany : many p b = .diverge :=
        Classical.byContradiction fun hne => Outcome.map_ne_diverge hne _ h
      obtain ⟨vs, d, hrounds, hd⟩ := ih hmany
      exact ⟨v :: vs, d, .cons hv hrounds, hd⟩
    | case2 c v b hv hlt => exact absurd (hp hv) hlt
    | case3 => simp at h
    | case4 c hc => exact ⟨[], c, .nil c, hc⟩
  · rintro ⟨vs, d, hrounds, hd⟩
    rw [hrounds.many_eq hp, many_of_diverge hd]
    rfl

/-- **Rounds that end in front of a failure are the only ones that do.** -/
theorem Rounds.unique (hp : p.Shortens) {vs' : List α} {d' : Cursor} (h : Rounds p c vs d)
    (hd : ∃ e, p d = .error e) (h' : Rounds p c vs' d') (hd' : ∃ e, p d' = .error e) :
    vs' = vs ∧ d' = d := by
  have hmany := ((many_eq_ok_iff hp).2 ⟨h', hd'⟩).symm.trans ((many_eq_ok_iff hp).2 ⟨h, hd⟩)
  exact Outcome.ok.inj hmany

/-- Behind a repetition its body does not succeed. -/
theorem left_many_ne_ok (p : Parser α) (c d : Cursor) (vs : List α) :
    left (many p) p c ≠ .ok vs d := by
  intro h
  obtain ⟨vs', b, hmany, h⟩ := bind_eq_ok h
  obtain ⟨v, b', hv, -⟩ := bind_eq_ok h
  obtain ⟨e, he⟩ := many_stops hmany
  simp [hv] at he

/-! ## The other loops -/

/-- Repeating a parser with changed values changes the values of the repetition. -/
theorem many_map (f : α → β) (p : Parser α) (c : Cursor) :
    many (Parser.map f p) c = (many p c).map (List.map f) := by
  fun_induction many p c with
  | case1 c v d hd hlt ih =>
    rw [many, Parser.map, hd]
    simp only [Outcome.map, if_pos hlt]
    rw [ih]
    cases many p d <;> rfl
  | case2 c v d hd hlt =>
    rw [many, Parser.map, hd]
    simp only [Outcome.map, if_neg hlt]
  | case3 c e hd =>
    rw [many, Parser.map, hd]
    rfl
  | case4 c hd =>
    rw [many, Parser.map, hd]
    rfl

theorem right_eq_map_pair (separator : Parser β) (p : Parser α) :
    right separator p = Parser.map Prod.snd (pair separator p) := by
  funext c
  rw [right, bind_apply, Parser.map, pair_apply]
  cases separator c with
  | ok u d =>
    simp only
    cases p d <;> rfl
  | error e => rfl
  | diverge => rfl

/-- **The items behind the first one are a repetition** of a separator and an item. -/
theorem separatedTail_eq_many (p : Parser α) (separator : Parser β) (c : Cursor) :
    separatedTail p separator c = many (right separator p) c := by
  rw [separatedTail_eq_map_many, right_eq_map_pair, many_map]

/-- **At least one round is a round and a repetition.** -/
theorem many1_eq_map_pair (hp : p.Shortens) :
    many1 p = Parser.map (fun q => q.1 :: q.2) (pair p (many p)) := by
  funext c
  rw [many1, Parser.map, pair_apply p (many p)]
  cases hv : p c with
  | ok v d =>
    simp only [if_pos (hp hv)]
    rw [many_eq_match_many1]
    cases many1 p d <;> rfl
  | error e => rfl
  | diverge => rfl

theorem many_eq_map_optional (p : Parser α) :
    many p = Parser.map (fun o => o.getD []) (optional (many1 p)) := by
  funext c
  rw [many_eq_match_many1, Parser.map]
  simp only [optional]
  cases many1 p c <;> rfl

theorem separatedBy1_eq_map_pair (p : Parser α) (separator : Parser β) :
    separatedBy1 p separator =
      Parser.map (fun q => q.1 :: q.2) (pair p (many (right separator p))) := by
  funext c
  rw [separatedBy1, Parser.map, pair_apply p (many (right separator p))]
  cases p c with
  | ok v d =>
    simp only [separatedTail_eq_many]
    cases many (right separator p) d <;> rfl
  | error e => rfl
  | diverge => rfl

theorem separatedBy_eq_map_optional (p : Parser α) (separator : Parser β) :
    separatedBy p separator =
      Parser.map (fun o => o.getD []) (optional (separatedBy1 p separator)) := by
  funext c
  rw [separatedBy, Parser.map, optional, separatedBy1]
  cases p c with
  | ok v d =>
    simp only
    cases htail : separatedTail p separator d with
    | ok vs d' => rfl
    | error e => exact absurd htail (separatedTail_ne_error p separator d e)
    | diverge => rfl
  | error e => rfl
  | diverge => rfl

/-! ## All of them -/

/-- **The loops agree.**  If an item, and a separator with an item behind it, read at least one byte
of the same text whenever they succeed, then

* a repetition succeeds with the rounds that lead to the first place where its body fails, and there
  are no others that do, unless its body diverges at the end of some rounds.  A parser that always
  returns leaves only the first;
* behind a repetition its body does not succeed;
* at least one round is a round and a repetition, with the same error if there is none, and a
  repetition is at least one round or nothing.  The same goes for items with separators;
* a separator that no item follows is not read by any of them. -/
theorem repetitions_agree
    (hp : ∀ {c d : Cursor} {v : α}, p c = .ok v d → d.source = c.source ∧ c.position < d.position)
    (hs : ∀ {c d : Cursor} {v : α}, right separator p c = .ok v d →
      d.source = c.source ∧ c.position < d.position) :
    (∀ c, (∃ vs d, many p c = .ok vs d ∧ Rounds p c vs d ∧ (∃ e, p d = .error e) ∧
        ∀ vs' d', Rounds p c vs' d' → (∃ e, p d' = .error e) → vs' = vs ∧ d' = d) ∨
      ∃ vs d, Rounds p c vs d ∧ p d = .diverge ∧ many p c = .diverge) ∧
    (∀ c d vs, left (many p) p c ≠ .ok vs d) ∧
    many1 p = Parser.map (fun q => q.1 :: q.2) (pair p (many p)) ∧
    many p = Parser.map (fun o => o.getD []) (optional (many1 p)) ∧
    separatedBy1 p separator =
      Parser.map (fun q => q.1 :: q.2) (pair p (many (right separator p))) ∧
    separatedBy p separator =
      Parser.map (fun o => o.getD []) (optional (separatedBy1 p separator)) ∧
    ∀ {c b d d' : Cursor} {v : α} {vs : List α} {u : β} {e : ParseError},
      p c = .ok v b → Rounds (right separator p) b vs d →
        separator d = .ok u d' → p d' = .error e →
          many (right separator p) b = .ok vs d ∧
          separatedBy1 p separator c = .ok (v :: vs) d ∧
          separatedBy p separator c = .ok (v :: vs) d := by
  have hshort : p.Shortens := shortens_of_position_lt hp
  refine ⟨fun c => ?_, left_many_ne_ok p, many1_eq_map_pair hshort, many_eq_map_optional p,
    separatedBy1_eq_map_pair p separator, separatedBy_eq_map_optional p separator, ?_⟩
  · cases hmany : many p c with
    | ok vs d =>
      obtain ⟨hrounds, hd⟩ := (many_eq_ok_iff hshort).1 hmany
      exact .inl ⟨vs, d, rfl, hrounds, hd, fun vs' d' h' hd' => hrounds.unique hshort hd h' hd'⟩
    | error e => exact absurd hmany (many_ne_error p c e)
    | diverge =>
      obtain ⟨vs, d, hrounds, hd⟩ := (many_eq_diverge_iff hshort).1 hmany
      exact .inr ⟨vs, d, hrounds, hd, rfl⟩
  · intro c b d d' v vs u e hv hrounds hu he
    have hstop : right separator p d = .error e := by
      rw [right, bind_apply, hu]
      exact he
    have hmany := (many_eq_ok_iff (shortens_of_position_lt hs)).2 ⟨hrounds, e, hstop⟩
    have hlist : separatedBy1 p separator c = .ok (v :: vs) d := by
      rw [separatedBy1, hv]
      simp only [separatedTail_eq_many, hmany, Outcome.map]
    refine ⟨hmany, hlist, ?_⟩
    rw [separatedBy_eq_map_optional, Parser.map, optional, hlist]
    rfl

/-- Two digits with a comma between them and a comma behind them, which is left. -/
theorem repetitions_agree_lastComma :
    (∀ {c d : Cursor} {v : Char}, digit c = .ok v d →
      d.source = c.source ∧ c.position < d.position) ∧
    (∀ {c d : Cursor} {v : Char}, right (char ',') digit c = .ok v d →
      d.source = c.source ∧ c.position < d.position) ∧
    many1 digit (.start "12,".toList) =
      Parser.map (fun q => q.1 :: q.2) (pair digit (many digit)) (.start "12,".toList) ∧
    separatedBy1 digit (char ',') (.start "1,2,x".toList) =
      .ok ['1', '2'] ⟨"2,1".toList, ",x".toList⟩ ∧
    separatedBy digit (char ',') (.start "1,2,x".toList) =
      .ok ['1', '2'] ⟨"2,1".toList, ",x".toList⟩ := by
  have hdigit : ∀ {c d : Cursor} {v : Char}, digit c = .ok v d →
      d.source = c.source ∧ c.position < d.position :=
    fun h => ⟨(satisfy_forward _ h).ahead.source_eq, satisfy_advances _ h⟩
  have hpair : ∀ {c d : Cursor} {v : Char}, right (char ',') digit c = .ok v d →
      d.source = c.source ∧ c.position < d.position := by
    intro c d v h
    obtain ⟨u, b, hu, hv⟩ := bind_eq_ok h
    have hlt : c.position < b.position := satisfy_advances _ hu
    exact ⟨(hdigit hv).1.trans (satisfy_forward _ hu).ahead.source_eq,
      Nat.lt_trans hlt (hdigit hv).2⟩
  obtain ⟨-, -, hmany1, -, -, -, hlast⟩ := repetitions_agree hdigit hpair
  have hrounds : Rounds (right (char ',') digit) ⟨['1'], ",2,x".toList⟩ ['2']
      ⟨"2,1".toList, ",x".toList⟩ := .cons rfl (.nil _)
  have hread := hlast (c := .start "1,2,x".toList) rfl hrounds rfl rfl
  exact ⟨hdigit, hpair, congrFun hmany1 _, hread.2⟩

end Parser

end Backtrack
