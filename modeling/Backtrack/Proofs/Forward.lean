import Backtrack.Proofs.Composed.Grammar
import Backtrack.Proofs.Succeeding

/-!
# Parsers move forward

A parser is handed a place and hands back a place, and nothing in its type ties the two together.
For parsers that are put together from the library they are tied: the place handed back is in the
same text, and it is reached from the first by reading a beginning of what was unread.

* `Cursor.Reaches c c'` — between the two places lies a text that has been read;
* `Parser.Forward` — a parser that succeeds has reached the place where it stops.  There is one
  lemma for each combinator, and a loop needs only that each of its rounds moves forward, since
  moving forward can be repeated;
* `Composed.forward` — all composed parsers move forward;
* `Cursor.Ahead` — the same in terms of sources and byte offsets, which follows from `Reaches`.
-/

set_option autoImplicit false

namespace Backtrack

/-! ## Places that are reached by reading -/

namespace Cursor

variable {c d e : Cursor}

/-- Reading a beginning of the unread text of `c` leads to `d`. -/
def Reaches (c d : Cursor) : Prop := ∃ w, c.rest = w ++ d.rest ∧ d = c.moveTo w d.rest

theorem Reaches.refl (c : Cursor) : c.Reaches c := ⟨[], rfl, rfl⟩

theorem Reaches.trans (hcd : c.Reaches d) (hde : d.Reaches e) : c.Reaches e := by
  obtain ⟨w, hw, hd⟩ := hcd
  obtain ⟨u, hu, he⟩ := hde
  refine ⟨w ++ u, by rw [hw, hu, List.append_assoc], ?_⟩
  rw [he, hd, moveTo, moveTo, moveTo, List.reverse_append, List.append_assoc]

theorem Reaches.length_le (h : c.Reaches d) : d.rest.length ≤ c.rest.length := by
  obtain ⟨w, hw, -⟩ := h
  rw [hw, List.length_append]
  exact Nat.le_add_left ..

/-- The place `d` lies ahead of `c`, as their sources and positions tell it. -/
structure Ahead (c d : Cursor) : Prop where
  /-- Both are places in the same text. -/
  source_eq : d.source = c.source
  /-- The position has not gone back. -/
  position_le : c.position ≤ d.position
  /-- The position has not gone beyond the end. -/
  position_le_byteSize : d.position ≤ Text.byteSize c.source
  /-- The position does not fall inside a character, and what follows it is the unread text. -/
  rest_eq : Text.dropBytes? d.position c.source = some d.rest
  /-- The text between the positions is the beginning of what was unread. -/
  slice_eq : ∃ w, Text.slice? c.position d.position c.source = some w ∧ c.rest = w ++ d.rest

/-- **What is reached by reading lies ahead.** -/
theorem Reaches.ahead (h : c.Reaches d) : c.Ahead d := by
  obtain ⟨w, hw, hd⟩ := h
  have hsource : d.source = c.source := by
    rw [source, source, hw, hd, moveTo, List.reverse_append, List.reverse_reverse,
      List.append_assoc]
  have hposition : d.position = c.position + Text.byteSize w := by
    rw [hd, position, moveTo, Text.byteSize_append, Text.byteSize_reverse, Nat.add_comm, position]
  refine ⟨hsource, by omega, ?_, ?_, w, ?_, hw⟩
  · rw [← hsource]
    exact position_le_byteSize_source d
  · rw [← hsource]
    exact dropBytes?_position d
  · have hle : c.position ≤ d.position := by omega
    have hsub : d.position - c.position = Text.byteSize w := by omega
    rw [Text.slice?, if_pos hle, dropBytes?_position, hsub, hw]
    exact Text.takeBytes?_byteSize_append w d.rest

/-- **What lies ahead is reached by reading.**  The same source and a position that has not gone
back are enough. -/
theorem reaches_of_position_le (hsource : d.source = c.source) (hle : c.position ≤ d.position) :
    c.Reaches d := by
  rw [source, source] at hsource
  rcases List.append_eq_append_iff.1 hsource with ⟨w, hpast, hrest⟩ | ⟨w, hpast, hrest⟩
  · have hsize : Text.byteSize c.past = Text.byteSize d.past + Text.byteSize w := by
      rw [← Text.byteSize_reverse c.past, hpast, Text.byteSize_append, Text.byteSize_reverse]
    have hw : w = [] := by
      rw [position, position] at hle
      exact Text.byteSize_eq_zero.1 (by omega)
    subst hw
    have hcd : d = c := by
      rw [List.append_nil, List.reverse_inj] at hpast
      cases c
      cases d
      simp_all
    exact hcd ▸ .refl c
  · refine ⟨w, hrest, ?_⟩
    have hd : d.past = w.reverse ++ c.past := by
      rw [← List.reverse_inj, hpast, List.reverse_append, List.reverse_reverse]
    rw [moveTo, ← hd]

end Cursor

/-! ## Combinators that move forward -/

namespace Parser

open Cursor

variable {α β : Type} {p q : Parser α}

/-- Where the parser succeeds, it has reached the place where it stops. -/
def Forward (p : Parser α) : Prop := ∀ {c c' : Cursor} {v : α}, p c = .ok v c' → c.Reaches c'

theorem Forward.bind {f : α → Parser β} (hp : p.Forward) (hf : ∀ v, (f v).Forward) :
    (Parser.bind p f).Forward := by
  intro c c' u h
  obtain ⟨v, d, hd, hu⟩ := bind_eq_ok h
  exact (hp hd).trans (hf v hu)

theorem Forward.map (hp : p.Forward) (f : α → β) : (Parser.map f p).Forward := by
  intro c c' u h
  obtain ⟨v, hv, -⟩ := map_eq_ok h
  exact hp hv

theorem Forward.filterMap (hp : p.Forward) (f : α → Option β) : (filterMap f p).Forward := by
  intro c c' u h
  obtain ⟨v, hv, -⟩ := filterMap_eq_ok h
  exact hp hv

theorem Forward.ranged (hp : p.Forward) : (ranged p).Forward := by
  intro c c' u h
  obtain ⟨v, hv, -⟩ := ranged_eq_ok h
  exact hp hv

theorem Forward.recover {f : ParseError → Parser α} (hp : p.Forward) (hf : ∀ e, (f e).Forward) :
    (recover p f).Forward := by
  intro c c' v h
  rcases recover_eq_ok h with hv | ⟨e, -, hv⟩
  · exact hp hv
  · exact hf e hv

theorem Forward.either (hp : p.Forward) (hq : q.Forward) : (either p q).Forward := by
  intro c c' v h
  rcases either_eq_ok h with hv | ⟨-, hv⟩
  · exact hp hv
  · exact hq hv

theorem Forward.firstOf {ps : List (Parser α)} (hps : ∀ p ∈ ps, p.Forward) :
    (firstOf ps).Forward := by
  intro c c' v h
  obtain ⟨p, hp, hv⟩ := firstOf_eq_ok h
  exact hps p hp hv

theorem Forward.optional (hp : p.Forward) : (optional p).Forward := by
  intro c c' o h
  rcases optional_eq_ok h with ⟨v, hv, -⟩ | ⟨-, -, rfl⟩
  · exact hp hv
  · exact .refl _

theorem Forward.followedBy {look : Parser β} (hp : p.Forward) : (followedBy p look).Forward := by
  intro c c' v h
  exact hp (followedBy_eq_ok h).1

theorem Forward.notFollowedBy {look : Parser β} (hp : p.Forward) :
    (notFollowedBy p look).Forward := by
  intro c c' v h
  exact hp (notFollowedBy_eq_ok h).1

/-! ## Parsers of characters -/

theorem satisfy_forward (f : Char → Bool) : (satisfy f).Forward := by
  intro c c' x h
  obtain ⟨-, hrest, hc'⟩ := satisfy_eq_ok h
  exact ⟨[x], hrest, hc'⟩

theorem text_forward (s : String) : (text s).Forward := by
  intro c c' v h
  obtain ⟨-, hrest, hc'⟩ := text_eq_ok h
  exact ⟨s.toList, hrest, hc'⟩

theorem pattern_forward (r : Pattern) : r.parser.Forward := by
  intro c c' v h
  obtain ⟨w, hrest, -, hc'⟩ := pattern_eq_ok h
  exact ⟨w, hrest, hc'⟩

/-- A search moves forward whatever its terminator does, since it stops in front of it. -/
theorem upTo_forward (p : Parser α) : (upTo p).Forward := by
  intro c c' u h
  obtain ⟨passed, v, -, hrest, hc', -⟩ := upTo_eq_ok h
  exact ⟨passed, hrest, hc'⟩

theorem endOfInput_forward : endOfInput.Forward := by
  intro c c' u h
  rw [(endOfInput_eq_ok h).2]
  exact .refl c

/-! ## Loops -/

/-- **Repeating a move forward is one.**  A loop stops where it stands, or one of its rounds leads
to a place with less to read from which it goes on. -/
theorem forward_of_rounds {σ : Type} (loop : σ → Parser α)
    (h : ∀ {s : σ} {c c' : Cursor} {v : α}, loop s c = .ok v c' →
      c.Reaches c' ∨ ∃ s' d v', c.Reaches d ∧ d.rest.length < c.rest.length ∧
        loop s' d = .ok v' c') (s : σ) : (loop s).Forward := by
  intro c c' v hv
  induction hn : c.rest.length using Nat.strongRecOn generalizing s c v with
  | ind n ih =>
    rcases h hv with hreach | ⟨s', d, v', hreach, hlt, hgo⟩
    · exact hreach
    · exact hreach.trans (ih d.rest.length (hn ▸ hlt) s' hgo rfl)

theorem Forward.many (hp : p.Forward) : Forward (many p) := by
  refine forward_of_rounds (fun _ : Unit => Parser.many p) (fun h => ?_) ()
  rcases many_eq_ok h with ⟨-, -, rfl⟩ | ⟨v, d, vs, hv, hlt, hmany, -⟩
  · exact .inl (.refl _)
  · exact .inr ⟨(), d, vs, hp hv, hlt, hmany⟩

theorem Forward.many1 (hp : p.Forward) : Forward (many1 p) := by
  refine forward_of_rounds (fun _ : Unit => Parser.many1 p) (fun h => ?_) ()
  obtain ⟨v, d, hv, hlt, ⟨-, -, rfl⟩ | ⟨vs, hmany, -⟩⟩ := many1_eq_ok h
  · exact .inl (hp hv)
  · exact .inr ⟨(), d, vs, hp hv, hlt, hmany⟩

theorem Forward.separatedTail {separator : Parser β} (hp : p.Forward) (hs : separator.Forward) :
    Forward (separatedTail p separator) := by
  refine forward_of_rounds (fun _ : Unit => Parser.separatedTail p separator)
    (fun h => ?_) ()
  rcases separatedTail_eq_ok h with ⟨-, -, rfl⟩ | ⟨u, d, v, d', vs, hu, hv, hlt, htail, -⟩
  · exact .inl (.refl _)
  · exact .inr ⟨(), d', vs, (hs hu).trans (hp hv), hlt, htail⟩

theorem Forward.separatedBy1 {separator : Parser β} (hp : p.Forward) (hs : separator.Forward) :
    (separatedBy1 p separator).Forward := by
  intro c c' vs h
  obtain ⟨v, d, vs', hv, htail, -⟩ := separatedBy1_eq_ok h
  exact (hp hv).trans (hp.separatedTail hs htail)

theorem Forward.separatedBy {separator : Parser β} (hp : p.Forward) (hs : separator.Forward) :
    (separatedBy p separator).Forward := by
  intro c c' vs h
  rcases separatedBy_eq_ok h with ⟨-, -, rfl⟩ | ⟨v, d, vs', hv, htail, -⟩
  · exact .refl _
  · exact (hp hv).trans (hp.separatedTail hs htail)

theorem Forward.leftLoop {symbol : Parser String} (hs : symbol.Forward) (hp : p.Forward)
    (t : Tree α) : Forward (leftLoop symbol p t) := by
  refine forward_of_rounds (Parser.leftLoop symbol p) (fun h => ?_) t
  rcases leftLoop_eq_ok h with ⟨-, -, rfl⟩ | ⟨op, d, v, d', hop, hv, hlt, hloop⟩
  · exact .inl (.refl _)
  · exact .inr ⟨_, d', _, (hs hop).trans (hp hv), hlt, hloop⟩

theorem Forward.leftOperators {symbol : Parser String} (hs : symbol.Forward) (hp : p.Forward) :
    (leftOperators symbol p).Forward := by
  intro c c' t h
  obtain ⟨v, d, hv, hloop⟩ := leftOperators_eq_ok h
  exact (hp hv).trans (hs.leftLoop hp _ hloop)

theorem Forward.rightOperators {symbol : Parser String} (hs : symbol.Forward) (hp : p.Forward) :
    Forward (rightOperators symbol p) := by
  refine forward_of_rounds (fun _ : Unit => Parser.rightOperators symbol p)
    (fun h => ?_) ()
  obtain ⟨v, d, hv, ⟨-, -, rfl⟩ | ⟨op, d', t, hop, hlt, hgo, -⟩⟩ := rightOperators_eq_ok h
  · exact .inl (hp hv)
  · exact .inr ⟨(), d', t, (hp hv).trans (hs hop), hlt, hgo⟩

end Parser

/-! ## All of them -/

open Backtrack.Parser

/-- **Composed parsers move forward.** -/
theorem Composed.forward {allowed : Feature → Prop} {α : Type} {p : Parser α}
    (hp : Composed allowed p) : p.Forward := by
  induction hp with
  | pure v => intro c c' v h; cases h; exact .refl c
  | mismatch => intro c c' v h; cases h
  | fail _ e => intro c c' v h; cases h
  | diverge => intro c c' v h; cases h
  | bind _ _ ihp ihf => exact ihp.bind ihf
  | map f _ ih => exact ih.map f
  | mapError _ f _ ih => exact fun h => ih (mapError_eq_ok h)
  | recover _ _ ihp ihf => exact ihp.recover ihf
  | filterMap f _ ih => exact ih.filterMap f
  | ranged _ _ ih => exact ih.ranged
  | satisfy f => exact satisfy_forward f
  | text s => exact text_forward s
  | pattern r => exact pattern_forward r
  | either _ _ ihp ihq => exact ihp.either ihq
  | firstOf _ ih => exact Forward.firstOf ih
  | optional _ ih => exact ih.optional
  | many _ ih => exact ih.many
  | many1 _ ih => exact ih.many1
  | separatedBy _ _ ihp ihs => exact ihp.separatedBy ihs
  | separatedBy1 _ _ ihp ihs => exact ihp.separatedBy1 ihs
  | followedBy _ _ ihp _ => exact ihp.followedBy
  | notFollowedBy _ _ ihp _ => exact ihp.notFollowedBy
  | upTo _ _ _ => exact upTo_forward _
  | endOfInput _ => exact endOfInput_forward
  | leftOperators _ _ ihs iho => exact ihs.leftOperators iho
  | rightOperators _ _ ihs iho => exact ihs.rightOperators iho
  | unroll _ depth ih => exact fun h => ih _ h

/-- **A successful parse ends ahead of where it began**, in the same text and at a place in it.
This holds of every composed parser, and of every grammar with definitions that refer to each other
as they like. -/
theorem ahead_of_eq_ok :
    (∀ {allowed : Feature → Prop} {α : Type} {p : Parser α}, Composed allowed p →
      ∀ {c c' : Cursor} {v : α}, p c = .ok v c' → c.Ahead c') ∧
    ∀ {defs : Definitions} {g : Grammar} {c c' : Cursor} {v : Value},
      g.parser defs c = .ok v c' → c.Ahead c' := by
  have hcomposed : ∀ {allowed : Feature → Prop} {α : Type} {p : Parser α}, Composed allowed p →
      ∀ {c c' : Cursor} {v : α}, p c = .ok v c' → c.Ahead c' :=
    fun hp _ _ _ h => (hp.forward h).ahead
  refine ⟨hcomposed, fun {defs g _ _ _} h => ?_⟩
  have hg : Composed (fun _ => True) (g.parser defs) :=
    g.parser_composed fun _ _ => trivial
  exact hcomposed hg h

/-- Nested quotation marks around a letter, by a definition that refers to itself. -/
def nestedQuotes : Definitions :=
  [("nested", .either (.enclosed '«' '»' (.ref "nested")) (.text "é"))]

/-- One parse by a composed parser and one by a grammar, both from the middle of a text and over
characters of several bytes. -/
theorem ahead_of_nestedQuotes :
    (Parser.pair (.text "é") (.upTo (.char ';')) ⟨['x'], "éab;".toList⟩ =
        .ok ("é", "ab", ';') ⟨"baéx".toList, [';']⟩ ∧
      Cursor.Ahead ⟨['x'], "éab;".toList⟩ ⟨"baéx".toList, [';']⟩) ∧
    (Grammar.ref "nested").parser nestedQuotes ⟨['x'], "«é»".toList⟩ =
        .ok (.str "é") ⟨"»é«x".toList, []⟩ ∧
      Cursor.Ahead ⟨['x'], "«é»".toList⟩ ⟨"»é«x".toList, []⟩ := by
  have hp : Composed (fun _ => True) (Parser.pair (.text "é") (.upTo (.char ';'))) :=
    .pair (.text _) (.upTo trivial (.satisfy _))
  have h : Parser.pair (.text "é") (.upTo (.char ';')) ⟨['x'], "éab;".toList⟩ =
      .ok ("é", "ab", ';') ⟨"baéx".toList, [';']⟩ := rfl
  have h' : (Grammar.ref "nested").parser nestedQuotes ⟨['x'], "«é»".toList⟩ =
      .ok (.str "é") ⟨"»é«x".toList, []⟩ := rfl
  exact ⟨⟨h, ahead_of_eq_ok.1 hp h⟩, h', ahead_of_eq_ok.2 h'⟩

end Backtrack
