import Backtrack.Proofs.Ranged.Noted
import Backtrack.Proofs.Termination

/-!
# Ranges stay inside what was read

A range is noted where a value has just been read, and from there it travels outwards with the
value: into lists and trees, through functions of values, past choices that were tried before and
given up.  Wherever it ends up, it lies inside the text that the whole parse has read.

* `Parser.Confines` — the ranges that a parser hands out lie on the way from where it begins to
  where it stops.  There is one lemma for each combinator, and only one combinator has none: a
  search hands out the value of its terminator, which has read on from where the search stops;
* `Grammar.Gives` — the values that are written in a grammar.  They could have ranges in them that
  nobody has read;
* `Grammar.parser_confines` — a grammar without searches, in whose values no range is written,
  describes a parser that confines its ranges;
* `Tiles` — ranged values one behind the other, with nothing between them;
* `ranges_inside` — all of it together.
-/

set_option autoImplicit false

namespace Backtrack

/-! ## Combinators that confine ranges -/

namespace Parser

open Cursor

variable {α β : Type} {p q : Parser α} {notes : α → Range → Prop} {notes' : β → Range → Prop}

/-- Where the parser succeeds it has moved forward, and the ranges noted in what it yields are those
of places on its way.  The relation `notes` says which ranges are noted in a value. -/
structure Confines (notes : α → Range → Prop) (p : Parser α) : Prop where
  /-- The parser moves forward. -/
  forward : p.Forward
  /-- The ranges lie between places that have been passed. -/
  passed : ∀ {c d : Cursor} {u : α} {r : Range}, p c = .ok u d → notes u r → r.Passed c d

theorem Forward.confines (hp : p.Forward)
    (h : ∀ {c d : Cursor} {u : α}, p c = .ok u d → ∀ r, ¬ notes u r) : p.Confines notes :=
  ⟨hp, fun hu hr => absurd hr (h hu _)⟩

theorem Confines.map (hp : p.Confines notes) {f : α → β}
    (hf : ∀ {u : α} {r : Range}, notes' (f u) r → notes u r) :
    (Parser.map f p).Confines notes' := by
  refine ⟨Forward.map hp.forward f, fun h hr => ?_⟩
  obtain ⟨u, hu, rfl⟩ := map_eq_ok h
  exact hp.passed hu (hf hr)

/-- **What is noted by two parsers together** is noted in what the first one has yielded, or the
second one has passed it. -/
theorem Confines.bind {f : α → Parser β} (hp : p.Confines notes) (hforward : ∀ u, (f u).Forward)
    (hf : ∀ {u : α} {c d : Cursor} {w : β} {r : Range}, f u c = .ok w d → notes' w r →
      notes u r ∨ r.Passed c d) : (Parser.bind p f).Confines notes' := by
  refine ⟨Forward.bind hp.forward hforward, fun h hr => ?_⟩
  obtain ⟨u, m, hu, hw⟩ := bind_eq_ok h
  have hcm := hp.forward hu
  have hmd := hforward u hw
  rcases hf hw hr with hr | hr
  · exact (hp.passed hu hr).mono (.refl _) hmd
  · exact hr.mono hcm (.refl _)

theorem Confines.andThen {f : α → Parser β} (hp : p.Confines notes)
    (hf : ∀ u, (f u).Confines notes') : (Parser.bind p f).Confines notes' :=
  hp.bind (fun u => (hf u).forward) fun hw hr => .inr ((hf _).passed hw hr)

theorem pure_forward (u : α) : (Parser.pure u).Forward := by
  intro c d v h
  cases h
  exact .refl c

theorem Confines.left {q : Parser β} (hp : p.Confines notes) (hq : q.Forward) :
    (left p q).Confines notes := by
  refine hp.bind (fun u => hq.bind fun _ => pure_forward u) fun hw hr => .inl ?_
  obtain ⟨v, m, -, hu⟩ := bind_eq_ok hw
  cases hu
  exact hr

theorem Confines.pair {q : Parser β} (hp : p.Confines notes) (hq : q.Confines notes') :
    (pair p q).Confines fun u r => notes u.1 r ∨ notes' u.2 r := by
  refine hp.bind (fun u => Forward.bind hq.forward fun v => pure_forward (u, v)) fun hw hr => ?_
  obtain ⟨v, m, hv, hu⟩ := bind_eq_ok hw
  cases hu
  exact hr.imp_right (hq.passed hv)

theorem Confines.sequence {ps : List (Parser α)} (hps : ∀ p ∈ ps, p.Confines notes) :
    (sequence ps).Confines fun us r => ∃ u ∈ us, notes u r := by
  induction ps with
  | nil =>
    refine Forward.confines (pure_forward []) fun h r => ?_
    cases h
    simp
  | cons p ps ih =>
    have hp := hps p List.mem_cons_self
    have ih := ih fun p hp => hps p (List.mem_cons_of_mem _ hp)
    have hforward : ∀ u, (Parser.bind (Parser.sequence ps) fun us => .pure (u :: us)).Forward :=
      fun u => Forward.bind ih.forward fun us => pure_forward (u :: us)
    refine hp.bind hforward fun hw hr => ?_
    obtain ⟨us, m, hus, hu⟩ := bind_eq_ok hw
    cases hu
    obtain ⟨u, hu, hr⟩ := hr
    rcases List.mem_cons.1 hu with rfl | hu
    · exact .inl hr
    · exact .inr (ih.passed hus ⟨u, hu, hr⟩)

theorem Confines.filterMap {f : α → Option β} (hp : p.Confines notes)
    (hf : ∀ {u : α} {w : β} {r : Range}, f u = some w → notes' w r → notes u r) :
    (filterMap f p).Confines notes' := by
  refine ⟨Forward.filterMap hp.forward f, fun h hr => ?_⟩
  obtain ⟨u, hu, hw⟩ := filterMap_eq_ok h
  exact hp.passed hu (hf hw hr)

theorem Confines.mapError (hp : p.Confines notes) (f : ParseError → ParseError) :
    (mapError f p).Confines notes :=
  ⟨fun h => hp.forward (mapError_eq_ok h), fun h hr => hp.passed (mapError_eq_ok h) hr⟩

/-- A parser that was tried and failed has noted nothing. -/
theorem Confines.recover {f : ParseError → Parser α} (hp : p.Confines notes)
    (hf : ∀ e, (f e).Confines notes) : (recover p f).Confines notes := by
  refine ⟨Forward.recover hp.forward fun e => (hf e).forward, fun h hr => ?_⟩
  rcases recover_eq_ok h with h | ⟨e, -, h⟩
  · exact hp.passed h hr
  · exact (hf e).passed h hr

theorem Confines.either (hp : p.Confines notes) (hq : q.Confines notes) :
    (either p q).Confines notes := by
  refine ⟨Forward.either hp.forward hq.forward, fun h hr => ?_⟩
  rcases either_eq_ok h with h | ⟨-, h⟩
  · exact hp.passed h hr
  · exact hq.passed h hr

theorem Confines.firstOf {ps : List (Parser α)} (hps : ∀ p ∈ ps, p.Confines notes) :
    (firstOf ps).Confines notes := by
  refine ⟨Forward.firstOf fun p hp => (hps p hp).forward, fun h hr => ?_⟩
  obtain ⟨p, hp, h⟩ := firstOf_eq_ok h
  exact (hps p hp).passed h hr

theorem Confines.optional (hp : p.Confines notes) :
    (optional p).Confines fun o r => ∃ u ∈ o, notes u r := by
  refine ⟨Forward.optional hp.forward, fun h hr => ?_⟩
  obtain ⟨u, hu, hr⟩ := hr
  rcases optional_eq_ok h with ⟨v, hv, rfl⟩ | ⟨-, rfl, -⟩
  · cases hu
    exact hp.passed hv hr
  · cases hu

theorem Confines.followedBy {look : Parser β} (hp : p.Confines notes) :
    (followedBy p look).Confines notes :=
  ⟨Forward.followedBy hp.forward, fun h hr => hp.passed (followedBy_eq_ok h).1 hr⟩

theorem Confines.notFollowedBy {look : Parser β} (hp : p.Confines notes) :
    (notFollowedBy p look).Confines notes :=
  ⟨Forward.notFollowedBy hp.forward, fun h hr => hp.passed (notFollowedBy_eq_ok h).1 hr⟩

/-- The range that is noted here is the way itself. -/
theorem Confines.ranged (hp : p.Confines notes) :
    (ranged p).Confines fun u r => r = u.range ∨ notes u.value r := by
  refine ⟨Forward.ranged hp.forward, fun h hr => ?_⟩
  obtain ⟨u, hu, rfl⟩ := ranged_eq_ok h
  rcases hr with rfl | hr
  · exact Range.passed_between (hp.forward hu)
  · exact hp.passed hu hr

/-! ## Loops -/

theorem Confines.many (hp : p.Confines notes) :
    Confines (fun us r => ∃ u ∈ us, notes u r) (many p) := by
  refine ⟨Forward.many hp.forward, fun {c d us r} h hr => ?_⟩
  -- what a later round has noted lies behind what the rounds before it have read
  induction us generalizing c with
  | nil =>
    obtain ⟨u, hu, -⟩ := hr
    simp at hu
  | cons u us ih =>
    rcases many_eq_ok h with ⟨-, hnil, -⟩ | ⟨v, m, us', hv, -, hmany, hcons⟩
    · simp at hnil
    · rw [List.cons.injEq] at hcons
      obtain ⟨rfl, rfl⟩ := hcons
      obtain ⟨w, hw, hr⟩ := hr
      rcases List.mem_cons.1 hw with rfl | hw
      · exact (hp.passed hv hr).mono (.refl c) (Forward.many hp.forward hmany)
      · exact (ih hmany ⟨w, hw, hr⟩).mono (hp.forward hv) (.refl d)

theorem Confines.many1 (hp : p.Confines notes) :
    Confines (fun us r => ∃ u ∈ us, notes u r) (many1 p) := by
  refine ⟨Forward.many1 hp.forward, fun {c d us r} h hr => hp.many.passed (c := c) (u := us) ?_ hr⟩
  rw [many_eq_match_many1, h]

theorem Confines.separatedTail {separator : Parser β} (hp : p.Confines notes)
    (hs : separator.Confines notes') :
    Confines (fun us r => ∃ u ∈ us, notes u r) (separatedTail p separator) := by
  have hpairs : Parser.separatedTail p separator =
      Parser.map (·.map Prod.snd) (Parser.many (.pair separator p)) :=
    funext (separatedTail_eq_map_many p separator)
  rw [hpairs]
  refine (hs.pair hp).many.map fun {pairs r} hr => ?_
  obtain ⟨u, hu, hr⟩ := hr
  obtain ⟨pair, hpair, rfl⟩ := List.mem_map.1 hu
  exact ⟨pair, hpair, .inr hr⟩

theorem Confines.separatedBy1 {separator : Parser β} (hp : p.Confines notes)
    (hs : separator.Confines notes') :
    (separatedBy1 p separator).Confines fun us r => ∃ u ∈ us, notes u r := by
  refine ⟨Forward.separatedBy1 hp.forward hs.forward, fun h hr => ?_⟩
  obtain ⟨u, m, us, hu, htail, rfl⟩ := separatedBy1_eq_ok h
  obtain ⟨w, hw, hr⟩ := hr
  rcases List.mem_cons.1 hw with rfl | hw
  · exact (hp.passed hu hr).mono (.refl _) (Forward.separatedTail hp.forward hs.forward htail)
  · exact ((hp.separatedTail hs).passed htail ⟨w, hw, hr⟩).mono (hp.forward hu) (.refl _)

theorem Confines.separatedBy {separator : Parser β} (hp : p.Confines notes)
    (hs : separator.Confines notes') :
    (separatedBy p separator).Confines fun us r => ∃ u ∈ us, notes u r := by
  refine ⟨Forward.separatedBy hp.forward hs.forward, fun {c d us r} h hr => ?_⟩
  rcases separatedBy_eq_ok h with ⟨-, rfl, -⟩ | ⟨u, m, us', hu, htail, rfl⟩
  · obtain ⟨w, hw, -⟩ := hr
    simp at hw
  · refine (hp.separatedBy1 hs).passed (c := c) (d := d) ?_ hr
    rw [Parser.separatedBy1, hu]
    simp only [htail, Outcome.map]

theorem mem_operands_hang {t : Tree α} {pairs : List (String × α)} {u : α}
    (h : u ∈ (t.hang pairs).operands) : u ∈ t.operands ∨ ∃ op, (op, u) ∈ pairs := by
  induction pairs generalizing t with
  | nil => exact .inl h
  | cons pair pairs ih =>
    rcases ih h with hu | ⟨op, hop⟩
    · rcases List.mem_append.1 hu with hu | hu
      · exact .inl hu
      · obtain rfl := List.mem_singleton.1 hu
        exact .inr ⟨pair.1, List.mem_cons_self⟩
    · exact .inr ⟨op, List.mem_cons_of_mem _ hop⟩

theorem Confines.leftOperators {symbol : Parser String} (hs : symbol.Forward)
    (hp : p.Confines notes) :
    (leftOperators symbol p).Confines fun t r => ∃ u ∈ t.operands, notes u r := by
  have hsymbol : symbol.Confines fun _ _ => False := hs.confines fun _ _ => id
  have hpairs := (hsymbol.pair hp).many
  refine ⟨hs.leftOperators hp.forward, fun h hr => ?_⟩
  rw [leftOperators_eq_map] at h
  obtain ⟨⟨v, pairs⟩, hchain, rfl⟩ := map_eq_ok h
  obtain ⟨m, hv, hmany⟩ := chain_eq_ok hchain
  obtain ⟨u, hu, hr⟩ := hr
  rcases mem_operands_hang hu with hu | ⟨op, hop⟩
  · obtain rfl := List.mem_singleton.1 hu
    exact (hp.passed hv hr).mono (.refl _) (hpairs.forward hmany)
  · exact (hpairs.passed hmany ⟨(op, u), hop, .inr hr⟩).mono (hp.forward hv) (.refl _)

theorem Confines.rightOperators {symbol : Parser String} (hs : symbol.Forward)
    (hp : p.Confines notes) :
    Confines (fun t r => ∃ u ∈ t.operands, notes u r) (rightOperators symbol p) := by
  have hforward : Forward (Parser.rightOperators symbol p) := hs.rightOperators hp.forward
  refine ⟨hforward, fun {c d t r} h hr => ?_⟩
  induction t generalizing c with
  | leaf w =>
    obtain ⟨u, hu, hr⟩ := hr
    obtain rfl := List.mem_singleton.1 hu
    obtain ⟨v, m, hv, ⟨-, hleaf, rfl⟩ | ⟨op, m', t', -, -, -, hnode⟩⟩ := rightOperators_eq_ok h
    · cases hleaf
      exact hp.passed hv hr
    · cases hnode
  | node op l t' _ ih =>
    obtain ⟨v, m, hv, ⟨-, hleaf, -⟩ | ⟨op', m', t'', hop, -, hgo, hnode⟩⟩ := rightOperators_eq_ok h
    · cases hleaf
    · cases hnode
      have hcm' := (hp.forward hv).trans (hs hop)
      obtain ⟨u, hu, hr⟩ := hr
      rcases List.mem_append.1 hu with hu | hu
      · obtain rfl := List.mem_singleton.1 hu
        exact (hp.passed hv hr).mono (.refl c) ((hs hop).trans (hforward hgo))
      · exact (ih hgo ⟨u, hu, hr⟩).mono hcm' (.refl d)

theorem Confines.operators (o : Operators) (hp : p.Confines notes) :
    (o.parser p).Confines fun t r => ∃ u ∈ t.operands, notes u r := by
  have hsymbol : o.symbol.Forward := firstSymbol_forward _ _
  rw [Operators.parser]
  cases o.assoc with
  | left => exact hp.leftOperators hsymbol
  | right => exact hp.rightOperators hsymbol

end Parser

/-! ## Grammars -/

theorem Standard.plain_of_eq_ok {s : Standard} {c d : Cursor} {v : Value}
    (h : s.parser c = .ok v d) : v.Plain := by
  cases s with
  | posint | integer =>
    obtain ⟨i, -, rfl⟩ := Parser.map_eq_ok h
    exact Value.plain_int _
  | unsignedDecimal | decimal | calculator =>
    obtain ⟨x, -, rfl⟩ := Parser.map_eq_ok h
    exact Value.plain_float x
  | expr =>
    obtain ⟨t, -, rfl⟩ := Parser.map_eq_ok h
    exact Value.plain_tree Value.plain_float t
  | list =>
    obtain ⟨t, -, rfl⟩ := Parser.map_eq_ok h
    exact Value.plain_tree Value.plain_str t
  | item | word | quotedWord | command =>
    obtain ⟨s, -, rfl⟩ := Parser.map_eq_ok h
    exact Value.plain_str s
  | commandPath | arguments =>
    obtain ⟨ss, -, rfl⟩ := Parser.map_eq_ok h
    exact Value.plain_strs ss

theorem Standard.parser_confines (s : Standard) : s.parser.Confines Value.Notes := by
  have hcomposed : Composed (fun _ => True) s.parser := by
    have hsupplied : ∀ i ∈ s.ingredients, i.Supplied (fun _ => True) fun _ => Parser.mismatch := by
      rintro (f | name) -
      · trivial
      · exact .mismatch
    exact s.parser_composed hsupplied
  exact Parser.Forward.confines hcomposed.forward Standard.plain_of_eq_ok

namespace Grammar

mutual

/-- The values that are written in a grammar. -/
def literals : Grammar → List Value
  | satisfy _ | text _ | pattern _ | take _ | standard _ | ref _ | fail _ | endOfInput
  | operatorSymbol _ _ => []
  | pure v => [v]
  | map f g => f.literals ++ g.literals
  | filterMap _ g | mapError _ g | signed g | repeatAny g | same g | optional g | many g | many1 g
  | upTo g | ranged g | operators _ g => g.literals
  | recover g h | pair g h | left g h | right g h | either g h | separatedBy g h
  | separatedBy1 g h | followedBy g h | notFollowedBy g h => g.literals ++ h.literals
  | delimitedBy opening g closing => opening.literals ++ (g.literals ++ closing.literals)
  | sequence gs | firstOf gs => literalsAll gs
  | switch g cases _ | recoverKinds g cases => g.literals ++ literalsCases cases

/-- The values that are written in one of several grammars. -/
def literalsAll : List Grammar → List Value
  | [] => []
  | g :: gs => g.literals ++ literalsAll gs

/-- The values that are written in one of several grammars listed under keys. -/
def literalsCases : List (String × Grammar) → List Value
  | [] => []
  | (_, g) :: cases => g.literals ++ literalsCases cases

end

/-- A value is written in a grammar, or in a definition to which its names lead. -/
inductive Gives (defs : Definitions) : Grammar → Value → Prop
  | here {g : Grammar} {v : Value} (h : v ∈ g.literals) : Gives defs g v
  | through {g d : Grammar} {name : String} {v : Value} (hname : .name name ∈ g.ingredients)
      (hd : defs.lookup name = some d) (h : Gives defs d v) : Gives defs g v

theorem literals_subset_of_lookup {defs : Definitions} {name : String} {d : Grammar}
    (h : defs.lookup name = some d) : d.literals ⊆ literalsCases defs := by
  induction defs with
  | nil => cases h
  | cons c defs ih =>
    obtain ⟨key, g⟩ := c
    rw [List.lookup_cons] at h
    split at h
    · cases h
      exact List.subset_append_left _ _
    · exact List.subset_append_of_subset_right _ (ih h)

/-- No value is given that is written neither in the grammar nor in any of the definitions. -/
theorem Gives.mem_literals {defs : Definitions} {g : Grammar} {v : Value} (h : g.Gives defs v) :
    v ∈ g.literals ∨ v ∈ literalsCases defs := by
  induction h with
  | here h => exact .inl h
  | through _ hd _ ih => exact .inr (ih.elim (fun h => literals_subset_of_lookup hd h) id)

/-- Ingredients and written values that let no range in from elsewhere, when `env` gives the parsers
that names stand for. -/
structure Tame (env : String → Parser Value) (is : List Ingredient) (vs : List Value) : Prop where
  /-- There is no search. -/
  upTo : .feature .upTo ∉ is
  /-- The names stand for parsers that confine their ranges. -/
  name : ∀ {name : String}, .name name ∈ is → (env name).Confines Value.Notes
  /-- No range is noted in the values. -/
  plain : ∀ v ∈ vs, v.Plain

variable {env : String → Parser Value}

theorem Tame.tail {i : Ingredient} {is : List Ingredient} {vs : List Value}
    (h : Tame env (i :: is) vs) : Tame env is vs :=
  ⟨fun hi => h.upTo (List.mem_cons_of_mem i hi), fun hi => h.name (List.mem_cons_of_mem i hi),
    h.plain⟩

theorem Tame.append {is js : List Ingredient} {vs ws : List Value}
    (h : Tame env (is ++ js) (vs ++ ws)) : Tame env is vs ∧ Tame env js ws :=
  ⟨⟨fun hi => h.upTo (List.mem_append_left js hi), fun hi => h.name (List.mem_append_left js hi),
      fun v hv => h.plain v (List.mem_append_left ws hv)⟩,
    ⟨fun hi => h.upTo (List.mem_append_right is hi), fun hi => h.name (List.mem_append_right is hi),
      fun v hv => h.plain v (List.mem_append_right vs hv)⟩⟩

theorem map_confines {α : Type} {p : Parser α} {f : α → Value} (hp : p.Forward)
    (hf : ∀ u, (f u).Plain) : (Parser.map f p).Confines Value.Notes := by
  refine Parser.Forward.confines (hp.map f) fun h => ?_
  obtain ⟨u, -, rfl⟩ := Parser.map_eq_ok h
  exact hf u

theorem fail_confines (e : ParseError) : (Parser.fail e : Parser Value).Confines Value.Notes := by
  refine ⟨fun h => ?_, fun h => ?_⟩
  · cases h
  · cases h

theorem repeatValue_confines (v : Value) : (repeatValue v).Confines Value.Notes := by
  cases v with
  | int n =>
    have hread : Composed (fun _ => True) (Parser.joined (.exactly n.toNat .anyChar)) :=
      .joined (.exactly (.satisfy _) _)
    exact map_confines hread.forward Value.plain_str
  | _ => exact fail_confines .mismatch

theorem sameValue_confines (v : Value) : (sameValue v).Confines Value.Notes := by
  cases v with
  | char c => exact map_confines (Parser.satisfy_forward _) Value.plain_char
  | _ => exact map_confines (Parser.text_forward _) Value.plain_str

theorem lookup_confines {cases : List (String × Parser Value)}
    (hcases : ∀ c ∈ cases, c.2.Confines Value.Notes) (key : String) (e : ParseError) :
    ((cases.lookup key).getD (Parser.fail e)).Confines Value.Notes := by
  induction cases with
  | nil => exact fail_confines e
  | cons c cases ih =>
    have hc := hcases c List.mem_cons_self
    have ih := ih fun c hc => hcases c (List.mem_cons_of_mem _ hc)
    rw [List.lookup_cons]
    split
    · exact hc
    · exact ih

mutual

/-- **A grammar confines its ranges**, if no search is used and no range is written in it, and if
the names in it stand for parsers that do so. -/
theorem denote_confines (g : Grammar) (h : Tame env g.ingredients g.literals) :
    (g.denote env).Confines Value.Notes := by
  cases g with
  | satisfy f => exact map_confines (Parser.satisfy_forward _) Value.plain_char
  | text s => exact map_confines (Parser.text_forward s) Value.plain_str
  | pattern p => exact map_confines (Parser.pattern_forward p) Value.plain_str
  | take n =>
    have hread : Composed (fun _ => True) (Parser.joined (.exactly n .anyChar)) :=
      .joined (.exactly (.satisfy _) n)
    exact map_confines hread.forward Value.plain_str
  | standard s => exact s.parser_confines
  | ref name => exact h.name List.mem_cons_self
  | pure v =>
    refine Parser.Forward.confines (Parser.pure_forward v) fun hu => ?_
    cases hu
    exact h.plain v List.mem_cons_self
  | fail e => exact fail_confines e
  | endOfInput =>
    refine map_confines Parser.endOfInput_forward fun _ r hr => ?_
    cases hr
  | map f g =>
    obtain ⟨hf, hg⟩ := List.forall_mem_append.1 h.plain
    exact (denote_confines g ⟨h.upTo, h.name, hg⟩).map (Value.Function.notes_of_apply hf)
  | filterMap f g => exact (denote_confines g h).filterMap Value.Selection.notes_of_eq_some
  | mapError f g => exact (denote_confines g h.tail).mapError _
  | signed g =>
    have hsign : (Parser.optional (.oneOf ['+', '-'])).Confines fun _ _ => False :=
      Parser.Forward.confines (Parser.Forward.optional (Parser.satisfy_forward _)) fun _ _ => id
    have hg := denote_confines g h
    refine hsign.andThen fun sign => ?_
    refine hg.bind (fun v => Parser.pure_forward _) fun hw hr => .inl ?_
    cases hw
    split at hr
    · exact Value.notes_of_negate hr
    · exact hr
  | repeatAny g => exact (denote_confines g h).andThen repeatValue_confines
  | same g => exact (denote_confines g h).andThen sameValue_confines
  | switch g cases message =>
    obtain ⟨hg, hcases⟩ := Tame.append h.tail
    exact (denote_confines g hg).andThen fun v =>
      lookup_confines (denoteCases_confines cases hcases) _ _
  | recover g g' =>
    obtain ⟨hg, hg'⟩ := Tame.append h
    exact (denote_confines g hg).recover fun _ => denote_confines g' hg'
  | recoverKinds g cases =>
    obtain ⟨hg, hcases⟩ := Tame.append h.tail
    exact (denote_confines g hg).recover fun e =>
      lookup_confines (denoteCases_confines cases hcases) _ _
  | pair g g' =>
    obtain ⟨hg, hg'⟩ := Tame.append h
    refine ((denote_confines g hg).pair (denote_confines g' hg')).map fun hr => ?_
    cases hr with
    | tuple hv hr =>
      rcases List.mem_cons.1 hv with rfl | hv
      · exact .inl hr
      · obtain rfl := List.mem_singleton.1 hv
        exact .inr hr
  | left g g' =>
    obtain ⟨hg, hg'⟩ := Tame.append h
    exact (denote_confines g hg).left (denote_confines g' hg').forward
  | right g g' =>
    obtain ⟨hg, hg'⟩ := Tame.append h
    exact (denote_confines g hg).andThen fun _ => denote_confines g' hg'
  | sequence gs =>
    exact (Parser.Confines.sequence (denoteAll_confines gs h)).map Value.notes_of_list
  | delimitedBy o g c =>
    obtain ⟨ho, h⟩ := Tame.append h
    obtain ⟨hg, hc⟩ := Tame.append h
    exact (denote_confines o ho).andThen fun _ =>
      (denote_confines g hg).left (denote_confines c hc).forward
  | either g g' =>
    obtain ⟨hg, hg'⟩ := Tame.append h
    exact (denote_confines g hg).either (denote_confines g' hg')
  | firstOf gs => exact Parser.Confines.firstOf (denoteAll_confines gs h)
  | optional g =>
    refine (denote_confines g h).optional.map fun {o r} hr => ?_
    cases o with
    | none => cases hr
    | some v =>
      cases hr with
      | present hr => exact ⟨v, rfl, hr⟩
  | many g => exact (denote_confines g h).many.map Value.notes_of_list
  | many1 g => exact (denote_confines g h).many1.map Value.notes_of_list
  | separatedBy g s =>
    obtain ⟨hg, hs⟩ := Tame.append h
    exact ((denote_confines g hg).separatedBy (denote_confines s hs)).map Value.notes_of_list
  | separatedBy1 g s =>
    obtain ⟨hg, hs⟩ := Tame.append h
    exact ((denote_confines g hg).separatedBy1 (denote_confines s hs)).map Value.notes_of_list
  | followedBy g l =>
    obtain ⟨hg, -⟩ := Tame.append h
    exact (denote_confines g hg).followedBy
  | notFollowedBy g l =>
    obtain ⟨hg, -⟩ := Tame.append h
    exact (denote_confines g hg).notFollowedBy
  | upTo t => exact absurd List.mem_cons_self h.upTo
  | ranged g =>
    refine (denote_confines g h.tail).ranged.map fun hr => ?_
    cases hr with
    | here => exact .inl rfl
    | ranged hr => exact .inr hr
  | operators o g =>
    refine ((denote_confines g h).operators o).map fun hr => ?_
    cases hr with
    | tree hv hr => exact ⟨_, hv, hr⟩
  | operatorSymbol symbols guardChars =>
    exact map_confines (Parser.firstSymbol_forward _ guardChars) Value.plain_str

theorem denoteAll_confines (gs : List Grammar) (h : Tame env (ingredientsAll gs) (literalsAll gs)) :
    ∀ p ∈ denoteAll env gs, p.Confines Value.Notes := by
  cases gs with
  | nil => simp [denoteAll]
  | cons g gs =>
    obtain ⟨hg, hgs⟩ := Tame.append h
    exact List.forall_mem_cons.2 ⟨denote_confines g hg, denoteAll_confines gs hgs⟩

theorem denoteCases_confines (cases : List (String × Grammar))
    (h : Tame env (ingredientsCases cases) (literalsCases cases)) :
    ∀ c ∈ denoteCases env cases, c.2.Confines Value.Notes := by
  cases cases with
  | nil => simp [denoteCases]
  | cons c cases =>
    obtain ⟨key, g⟩ := c
    obtain ⟨hg, hcases⟩ := Tame.append h
    exact List.forall_mem_cons.2 ⟨denote_confines g hg, denoteCases_confines cases hcases⟩

end

variable {defs : Definitions} {g : Grammar}

/-- The definitions are tame at every level, if nothing that the grammar leads to is not.  A name is
one level below the grammar in which it stands, so this is by induction on the level. -/
theorem tame_level (hupTo : ¬ g.Uses defs .upTo) (hplain : ∀ v, g.Gives defs v → v.Plain)
    (n : Nat) : Tame (defs.level n) g.ingredients g.literals := by
  induction n generalizing g with
  | zero =>
    refine ⟨fun hi => hupTo (.here hi), fun _ => ⟨fun h => ?_, fun h => ?_⟩,
      fun v hv => hplain v (.here hv)⟩
    · cases h
    · cases h
  | succ n ih =>
    refine ⟨fun hi => hupTo (.here hi), fun {name} hname => ?_, fun v hv => hplain v (.here hv)⟩
    rw [Definitions.level]
    split
    · rename_i d hd
      exact d.denote_confines (ih (fun h => hupTo (.through hname hd h))
        fun v hv => hplain v (.through hname hd hv))
    · exact fail_confines .mismatch

/-- **A grammar with definitions confines its ranges**, if neither it nor a definition to which its
names lead uses a search or has a range written in it. -/
theorem parser_confines (hupTo : ¬ g.Uses defs .upTo) (hplain : ∀ v, g.Gives defs v → v.Plain) :
    (g.parser defs).Confines Value.Notes := by
  have hlevel : ∀ n, (g.denote (defs.level n)).Confines Value.Notes :=
    fun n => g.denote_confines (tame_level hupTo hplain n)
  exact ⟨fun h => (hlevel _).forward h, fun h hr => (hlevel _).passed h hr⟩

end Grammar

/-! ## Ranged values in a row -/

/-- The values are ranged, and their ranges follow each other without a gap from the offset `start`
to the offset `stop`. -/
inductive Tiles : (start stop : Nat) → List Value → Prop
  | nil (n : Nat) : Tiles n n []
  | cons {v : Value} {r : Range} {stop : Nat} {vs : List Value} (hle : r.start ≤ r.stop)
      (h : Tiles r.stop stop vs) : Tiles r.start stop (.ranged v r :: vs)

namespace Parser

/-- Every value is ranged, over what was read for it. -/
def MarksItself (q : Parser Value) : Prop :=
  ∀ c d u, q c = .ok u d → c.Reaches d ∧ ∃ v, u = .ranged v (.between c d)

variable {q : Parser Value} {c d : Cursor} {us : List Value}

theorem Forward.marksItself {p : Parser Value} (hp : p.Forward) :
    (Parser.map (fun r => Value.ranged r.value r.range) (Parser.ranged p)).MarksItself := by
  intro c d u h
  obtain ⟨w, hw, rfl⟩ := map_eq_ok h
  obtain ⟨v, hv, rfl⟩ := ranged_eq_ok hw
  exact ⟨hp hv, v, rfl⟩

/-- What is marked from `c` to `d` is the first tile, if the others begin at `d`. -/
theorem tiles_cons {v : Value} {stop : Nat} (hcd : c.Reaches d)
    (h : Tiles d.position stop us) :
    Tiles c.position stop (.ranged v (.between c d) :: us) :=
  .cons (r := .between c d) hcd.ahead.position_le h

/-- **The rounds of a repetition follow each other without a gap.** -/
theorem many_tiles (hq : q.MarksItself) (h : many q c = .ok us d) :
    Tiles c.position d.position us := by
  induction us generalizing c with
  | nil =>
    rcases many_eq_ok h with ⟨-, -, rfl⟩ | ⟨v, m, us', -, -, -, hcons⟩
    · exact .nil _
    · cases hcons
  | cons u us ih =>
    rcases many_eq_ok h with ⟨-, hnil, -⟩ | ⟨v, m, us', hv, -, hmany, hcons⟩
    · cases hnil
    · cases hcons
      obtain ⟨hcm, v, rfl⟩ := hq c m u hv
      exact tiles_cons hcm (ih hmany)

/-- **The parsers of a sequence follow each other without a gap.** -/
theorem sequence_tiles {qs : List (Parser Value)} (hqs : ∀ q ∈ qs, q.MarksItself)
    (h : sequence qs c = .ok us d) : Tiles c.position d.position us := by
  induction qs generalizing c us with
  | nil =>
    cases h
    exact .nil _
  | cons q qs ih =>
    obtain ⟨u, m, hu, h⟩ := bind_eq_ok h
    obtain ⟨us', m', hus, h⟩ := bind_eq_ok h
    cases h
    obtain ⟨hcm, v, rfl⟩ := hqs q List.mem_cons_self c m u hu
    exact tiles_cons hcm (ih (fun q hq => hqs q (List.mem_cons_of_mem _ hq)) hus)

end Parser

namespace Grammar

variable {defs : Definitions} {c c' : Cursor} {v : Value}

theorem denote_level_forward (defs : Definitions) (g : Grammar) (n : Nat) :
    (g.denote (defs.level n)).Forward := by
  have hcomposed : Composed (fun _ => True) (g.denote (defs.level n)) := by
    refine g.denote_composed ?_
    rintro (f | name) -
    · trivial
    · exact Definitions.level_composed n name fun _ _ _ _ => trivial
  intro c d v h
  exact hcomposed.forward h

theorem ranged_denote_marksItself (defs : Definitions) (g : Grammar) (n : Nat) :
    ((ranged g).denote (defs.level n)).MarksItself :=
  Parser.Forward.marksItself (denote_level_forward defs g n)

theorem marksItself_of_mem_denoteAll {n : Nat} {gs : List Grammar} {q : Parser Value}
    (hq : q ∈ denoteAll (defs.level n) (gs.map ranged)) : q.MarksItself := by
  induction gs with
  | nil => cases hq
  | cons g gs ih =>
    rcases List.mem_cons.1 hq with rfl | hq
    · exact ranged_denote_marksItself defs g n
    · exact ih hq

theorem many_ranged_tiles {g : Grammar} (h : (many (ranged g)).parser defs c = .ok v c') :
    ∃ vs, v = .list vs ∧ Tiles c.position c'.position vs := by
  obtain ⟨vs, hvs, rfl⟩ := Parser.map_eq_ok h
  exact ⟨vs, rfl, Parser.many_tiles (ranged_denote_marksItself defs g _) hvs⟩

theorem sequence_ranged_tiles {gs : List Grammar}
    (h : (sequence (gs.map ranged)).parser defs c = .ok v c') :
    ∃ vs, v = .list vs ∧ Tiles c.position c'.position vs := by
  obtain ⟨vs, hvs, rfl⟩ := Parser.map_eq_ok h
  exact ⟨vs, rfl, Parser.sequence_tiles (fun q hq => marksItself_of_mem_denoteAll hq) hvs⟩

/-- **To note a range changes nothing else.** -/
theorem parser_ranged (defs : Definitions) (g : Grammar) (c : Cursor) :
    (ranged g).parser defs c = match g.parser defs c with
      | .ok u c' => .ok (.ranged u (.between c c')) c'
      | .error e => .error e
      | .diverge => .diverge := by
  show (Parser.ranged _ c).map _ = _
  rw [Parser.ranged, parser]
  cases g.denote (defs.level ((c.rest.length + 1) * defs.length + 1)) c <;> rfl

end Grammar

/-- **Ranges stay inside what was read.**

* Let a grammar with definitions use no search and have no range written in it.  Then every range
  noted in a value that it yields lies inside the text that was read for the value.
* A ranged grammar succeeds, fails and stops as the grammar does without its range, and the range
  goes from where it began to where it stopped.
* The items of a repetition of a ranged grammar, and those of a sequence of ranged grammars, follow
  each other without a gap from where the parse began to where it stopped. -/
theorem ranges_inside :
    (∀ {defs : Definitions} {g : Grammar}, ¬ g.Uses defs .upTo →
      (∀ v, g.Gives defs v → v.Plain) → ∀ {c c' : Cursor} {v : Value},
        g.parser defs c = .ok v c' → ∀ r, v.Notes r → r.Inside c c') ∧
    (∀ (defs : Definitions) (g : Grammar) (c : Cursor),
      (∀ u c', (Grammar.ranged g).parser defs c = .ok u c' ↔
        ∃ v, g.parser defs c = .ok v c' ∧ u = .ranged v ⟨c.position, c'.position⟩) ∧
      (∀ e, (Grammar.ranged g).parser defs c = .error e ↔ g.parser defs c = .error e) ∧
      ((Grammar.ranged g).parser defs c = .diverge ↔ g.parser defs c = .diverge)) ∧
    (∀ {defs : Definitions} {g : Grammar} {c c' : Cursor} {v : Value},
      (Grammar.many (.ranged g)).parser defs c = .ok v c' →
        ∃ vs, v = .list vs ∧ Tiles c.position c'.position vs) ∧
    ∀ {defs : Definitions} {gs : List Grammar} {c c' : Cursor} {v : Value},
      ((Grammar.sequence (gs.map .ranged)).parser defs c = .ok v c' →
        ∃ vs, v = .list vs ∧ Tiles c.position c'.position vs) ∧
      ((Grammar.map .asTuple (.sequence (gs.map .ranged))).parser defs c = .ok v c' →
        ∃ vs, v = .tuple vs ∧ Tiles c.position c'.position vs) := by
  refine ⟨fun hupTo hplain _ _ _ h r hr => ?_, fun defs g c => ?_, Grammar.many_ranged_tiles,
    Grammar.sequence_ranged_tiles, fun h => ?_⟩
  · exact ((Grammar.parser_confines hupTo hplain).passed h hr).inside
  · rw [Grammar.parser_ranged]
    cases g.parser defs c with
    | ok v d =>
      refine ⟨fun u c' => ⟨fun h => ?_, ?_⟩, by simp, by simp⟩
      · cases h
        exact ⟨v, rfl, rfl⟩
      · rintro ⟨w, hw, rfl⟩
        cases hw
        rfl
    | error e => simp
    | diverge => simp
  · obtain ⟨u, hu, rfl⟩ := Parser.map_eq_ok h
    obtain ⟨vs, rfl, htiles⟩ := Grammar.sequence_ranged_tiles hu
    exact ⟨vs, rfl, htiles⟩

/-- Nested quotation marks around a letter, with the range noted at every depth and a name in place
of the letter. -/
def markedQuotes : Definitions :=
  [("marked", .ranged (.either (.enclosed '«' '»' (.ref "marked"))
    (.map (.const (.str "letter")) (.text "é"))))]

/-- A range that is noted one level down by a definition that refers to itself, and tiles that are
laid from the middle of a text. -/
theorem ranges_inside_markedQuotes :
    (¬ (Grammar.ref "marked").Uses markedQuotes .upTo ∧
      (∀ v, (Grammar.ref "marked").Gives markedQuotes v → v.Plain) ∧
      (Grammar.ref "marked").parser markedQuotes ⟨['x'], "«é»!".toList⟩ =
        .ok (.ranged (.ranged (.str "letter") ⟨3, 5⟩) ⟨1, 7⟩) ⟨"»é«x".toList, ['!']⟩ ∧
      Range.Inside ⟨['x'], "«é»!".toList⟩ ⟨"»é«x".toList, ['!']⟩ ⟨3, 5⟩) ∧
    ((Grammar.ranged (.text "é")).parser [] ⟨['x'], ['é']⟩ =
        .ok (.ranged (.str "é") ⟨1, 3⟩) ⟨['é', 'x'], []⟩) ∧
    ((Grammar.many (.ranged (.satisfy .any))).parser [] ⟨['x'], "éa".toList⟩ =
        .ok (.list [.ranged (.char 'é') ⟨1, 3⟩, .ranged (.char 'a') ⟨3, 4⟩]) ⟨"aéx".toList, []⟩ ∧
      Tiles 1 4 [.ranged (.char 'é') ⟨1, 3⟩, .ranged (.char 'a') ⟨3, 4⟩]) ∧
    (Grammar.sequence ([.text "é", .text ""].map .ranged)).parser [] ⟨['x'], "éa".toList⟩ =
        .ok (.list [.ranged (.str "é") ⟨1, 3⟩, .ranged (.str "") ⟨3, 3⟩]) ⟨"éx".toList, ['a']⟩ ∧
      Tiles 1 3 [.ranged (.str "é") ⟨1, 3⟩, .ranged (.str "") ⟨3, 3⟩] := by
  obtain ⟨hinside, hranged, hmany, hsequence⟩ := ranges_inside
  have hupTo : ¬ (Grammar.ref "marked").Uses markedQuotes .upTo := by
    intro h
    rcases h.mem_ingredients with h | h
    · exact absurd h (by decide)
    · exact absurd h (by decide)
  have hplain : ∀ v, (Grammar.ref "marked").Gives markedQuotes v → v.Plain := by
    intro v h
    rcases h.mem_literals with h | h
    · cases h
    · obtain rfl : v = .str "letter" := List.mem_singleton.1 h
      exact Value.plain_str _
  have hmarked : (Grammar.ref "marked").parser markedQuotes ⟨['x'], "«é»!".toList⟩ =
      .ok (.ranged (.ranged (.str "letter") ⟨3, 5⟩) ⟨1, 7⟩) ⟨"»é«x".toList, ['!']⟩ := by rfl
  have hletter : (Grammar.text "é").parser [] ⟨['x'], ['é']⟩ =
      .ok (.str "é") ⟨['é', 'x'], []⟩ := rfl
  have htiles : (Grammar.many (.ranged (.satisfy .any))).parser [] ⟨['x'], "éa".toList⟩ =
      .ok (.list [.ranged (.char 'é') ⟨1, 3⟩, .ranged (.char 'a') ⟨3, 4⟩])
        ⟨"aéx".toList, []⟩ := by
    let item := (Grammar.ranged (.satisfy .any)).denote (Definitions.level [] 1)
    have hstop : Parser.many item ⟨"aéx".toList, []⟩ = .ok [] ⟨"aéx".toList, []⟩ := by
      rw [Parser.many]
      rfl
    have hlast : Parser.many item ⟨"éx".toList, ['a']⟩ =
        .ok [.ranged (.char 'a') ⟨3, 4⟩] ⟨"aéx".toList, []⟩ := by
      rw [Parser.many]
      exact congrArg (Outcome.map (.ranged (.char 'a') ⟨3, 4⟩ :: ·)) hstop
    have hboth : Parser.many item ⟨['x'], "éa".toList⟩ =
        .ok [.ranged (.char 'é') ⟨1, 3⟩, .ranged (.char 'a') ⟨3, 4⟩] ⟨"aéx".toList, []⟩ := by
      rw [Parser.many]
      exact congrArg (Outcome.map (.ranged (.char 'é') ⟨1, 3⟩ :: ·)) hlast
    exact congrArg (Outcome.map Value.list) hboth
  have hrow : (Grammar.sequence ([.text "é", .text ""].map .ranged)).parser []
      ⟨['x'], "éa".toList⟩ =
        .ok (.list [.ranged (.str "é") ⟨1, 3⟩, .ranged (.str "") ⟨3, 3⟩])
          ⟨"éx".toList, ['a']⟩ := rfl
  refine ⟨⟨hupTo, hplain, hmarked, ?_⟩, ?_, ⟨htiles, ?_⟩, hrow, ?_⟩
  · exact hinside hupTo hplain hmarked _ (.ranged (.here _ _) _)
  · exact ((hranged [] (.text "é") ⟨['x'], ['é']⟩).1 _ _).2 ⟨_, hletter, rfl⟩
  · obtain ⟨vs, hvs, h⟩ := hmany htiles
    cases hvs
    exact h
  · obtain ⟨vs, hvs, h⟩ := hsequence.1 hrow
    cases hvs
    exact h

end Backtrack
