import Backtrack.Proofs.Operator.Grouping

/-!
# Only idle rounds go on for ever

A parse that never ends is due to a loop whose rounds succeed without reading anything.  So a parser
without recursion always returns, if none of its loops can have such a round: the body of a
repetition reads something whenever it succeeds, and so does a separator with an item behind it, and
no operator symbol is empty.  Nothing is asked of items and operands by themselves, which may be
empty.

* `Parser.Advances` — where the parser succeeds, it has read at least one byte;
* `Progressive` — the parsers that are put together in this way.  It is `Composed` without features
  and recursion, and with a condition on each loop;
* `Parser.Returns` — the parser never diverges, with one lemma for each combinator.  All loops are
  repetitions of a pair of parsers in disguise, so `many_eq_diverge` does for all of them;
* `many_length_add_byteSize_le` — a repetition has at most one round for each byte that it reads;
* `Parser.tries` — the places at which a search runs its terminator.
-/

set_option autoImplicit false

namespace Backtrack

/-! ## Bytes that are left to read -/

namespace Cursor

variable {c d : Cursor}

theorem position_add_byteSize_rest (c : Cursor) :
    c.position + Text.byteSize c.rest = Text.byteSize c.source := by
  simp [position, source]

theorem Reaches.position_add_byteSize_rest_eq (h : c.Reaches d) :
    d.position + Text.byteSize d.rest = c.position + Text.byteSize c.rest := by
  rw [position_add_byteSize_rest, position_add_byteSize_rest, h.ahead.source_eq]

/-- On the way forward, to have read a byte is to have read a character. -/
theorem Reaches.position_lt_iff (h : c.Reaches d) :
    c.position < d.position ↔ d.rest.length < c.rest.length := by
  have hsum := h.position_add_byteSize_rest_eq
  obtain ⟨w, hw, -⟩ := h
  rw [hw, Text.byteSize_append] at hsum
  rw [hw, List.length_append]
  by_cases hnil : w = []
  · subst hnil
    rw [Text.byteSize_nil] at hsum
    rw [List.length_nil]
    omega
  · have hlength := List.length_pos_iff.2 hnil
    have hsize : Text.byteSize w ≠ 0 := fun h => hnil (Text.byteSize_eq_zero.1 h)
    omega

end Cursor

namespace Parser

open Cursor

variable {α β : Type} {p q : Parser α} {c d : Cursor}

/-! ## Parsers that read something -/

/-- Where the parser succeeds, it has read at least one byte. -/
def Advances (p : Parser α) : Prop :=
  ∀ {c d : Cursor} {v : α}, p c = .ok v d → c.position < d.position

theorem Forward.advances_iff (hp : p.Forward) :
    p.Advances ↔ ∀ {c d : Cursor} {v : α}, p c = .ok v d → d.rest.length < c.rest.length :=
  ⟨fun h _ _ _ hv => (hp hv).position_lt_iff.1 (h hv),
    fun h _ _ _ hv => (hp hv).position_lt_iff.2 (h hv)⟩

theorem satisfy_advances (f : Char → Bool) : (satisfy f).Advances := by
  refine (Forward.advances_iff (satisfy_forward f)).2 fun {c d x} h => ?_
  rw [(satisfy_eq_ok h).2.1, List.length_cons]
  omega

theorem Forward.pair {q : Parser β} (hp : p.Forward) (hq : q.Forward) : (pair p q).Forward := by
  intro c c' u h
  obtain ⟨d, hu, hv⟩ := pair_eq_ok h
  exact (hp hu).trans (hq hv)

/-- A pair reads something if its first part does. -/
theorem Advances.pair {q : Parser β} (hp : p.Advances) (hq : q.Forward) :
    (Parser.pair p q).Advances := by
  intro c c' u h
  obtain ⟨d, hu, hv⟩ := pair_eq_ok h
  exact Nat.lt_of_lt_of_le (hp hu) (hq hv).ahead.position_le

theorem Advances.many1 (hp : p.Forward) (h : p.Advances) : Advances (many1 p) := by
  intro c d vs hvs
  obtain ⟨v, d', hv, -, ⟨-, -, rfl⟩ | ⟨vs', hmany, -⟩⟩ := many1_eq_ok hvs
  · exact h hv
  · exact Nat.lt_of_lt_of_le (h hv) (hp.many1 hmany).ahead.position_le

theorem firstSymbol_forward (symbols : List String) (guardChars : Text) :
    (firstSymbol symbols guardChars).Forward := by
  intro c d op h
  have hcomposed : Composed (fun _ => True) (firstSymbol symbols guardChars) :=
    .firstSymbol symbols guardChars
  exact hcomposed.forward h

/-! ## Parsers that return -/

/-- The parser never diverges. -/
def Returns (p : Parser α) : Prop := ∀ c, p c ≠ .diverge

theorem Returns.bind {f : α → Parser β} (hp : p.Returns) (hf : ∀ v, (f v).Returns) :
    (Parser.bind p f).Returns := by
  intro c h
  rw [Parser.bind] at h
  split at h
  · exact hf _ _ h
  · cases h
  · exact hp c ‹_›

theorem Outcome.map_ne_diverge {o : Outcome α} (ho : o ≠ .diverge) (f : α → β) :
    o.map f ≠ .diverge := by
  cases o with
  | ok v d => simp [Outcome.map]
  | error e => simp [Outcome.map]
  | diverge => exact absurd rfl ho

theorem Returns.map (hp : p.Returns) (f : α → β) : (Parser.map f p).Returns :=
  fun c => Outcome.map_ne_diverge (hp c) f

theorem Returns.mapError (hp : p.Returns) (f : ParseError → ParseError) :
    (mapError f p).Returns := by
  intro c h
  rw [Parser.mapError] at h
  split at h
  · cases h
  · exact hp c h

theorem Returns.recover {f : ParseError → Parser α} (hp : p.Returns) (hf : ∀ e, (f e).Returns) :
    (recover p f).Returns := by
  intro c h
  rw [Parser.recover] at h
  split at h
  · exact hf _ c h
  · exact hp c h

theorem Returns.filterMap (hp : p.Returns) (f : α → Option β) : (filterMap f p).Returns := by
  intro c h
  rw [Parser.filterMap] at h
  split at h
  · split at h <;> cases h
  · cases h
  · exact hp c ‹_›

theorem Returns.ranged (hp : p.Returns) : (ranged p).Returns := by
  intro c h
  rw [Parser.ranged] at h
  split at h
  · cases h
  · cases h
  · exact hp c ‹_›

theorem satisfy_returns (f : Char → Bool) : (satisfy f).Returns := by
  intro c h
  rw [satisfy] at h
  split at h
  · cases h
  · split at h <;> cases h

theorem text_returns (s : String) : (text s).Returns := by
  intro c h
  rw [text] at h
  split at h <;> cases h

theorem pattern_returns (r : Pattern) : r.parser.Returns := by
  intro c h
  rw [Pattern.parser] at h
  split at h
  · split at h <;> cases h
  · cases h

theorem endOfInput_returns : endOfInput.Returns := by
  intro c h
  rw [endOfInput] at h
  split at h <;> cases h

theorem Returns.either (hp : p.Returns) (hq : q.Returns) : (either p q).Returns := by
  intro c h
  rw [Parser.either] at h
  split at h
  · split at h
    · cases h
    · exact hq c h
  · exact hp c h

theorem Returns.firstOf {ps : List (Parser α)} (hps : ∀ p ∈ ps, p.Returns) :
    (firstOf ps).Returns := by
  intro c h
  induction ps with
  | nil => cases h
  | cons p ps ih =>
    rw [Parser.firstOf] at h
    split at h
    · exact ih (fun p hp => hps p (List.mem_cons_of_mem _ hp)) h
    · exact hps p List.mem_cons_self c h

theorem Returns.optional (hp : p.Returns) : (optional p).Returns := by
  intro c h
  rw [Parser.optional] at h
  split at h
  · cases h
  · cases h
  · exact hp c ‹_›

theorem Returns.followedBy {look : Parser β} (hp : p.Returns) (hlook : look.Returns) :
    (followedBy p look).Returns := by
  intro c h
  rw [Parser.followedBy] at h
  split at h
  · split at h
    · cases h
    · cases h
    · exact hlook _ ‹_›
  · cases h
  · exact hp c ‹_›

theorem Returns.notFollowedBy {look : Parser β} (hp : p.Returns) (hlook : look.Returns) :
    (notFollowedBy p look).Returns := by
  intro c h
  rw [Parser.notFollowedBy] at h
  split at h
  · split at h
    · cases h
    · cases h
    · exact hlook _ ‹_›
  · cases h
  · exact hp c ‹_›

theorem Returns.scan (hp : p.Returns) (e : ParseError) (past unread : Text) :
    scan p e past unread ≠ .diverge := by
  induction unread generalizing past with
  | nil =>
    rw [Parser.scan]
    split
    · simp
    · simp
    · exact absurd ‹_› (hp _)
  | cons x r ih =>
    rw [Parser.scan]
    split
    · simp
    · exact Outcome.map_ne_diverge (ih (x :: past)) _
    · exact absurd ‹_› (hp _)

theorem Returns.upTo (hp : p.Returns) : (upTo p).Returns :=
  fun c => Outcome.map_ne_diverge (hp.scan _ c.past c.rest) _

/-! ## Loops -/

theorem Returns.pair {q : Parser β} (hp : p.Returns) (hq : q.Returns) : (pair p q).Returns :=
  hp.bind fun _ => hq.bind fun _ _ => by simp

/-- **A repetition returns if its body does and reads something.** -/
theorem Returns.many (hp : p.Returns) (hforward : p.Forward) (hadvances : p.Advances) :
    Returns (many p) := by
  intro c h
  obtain ⟨d, -, hdiverge | ⟨v, d', hv, hstuck⟩⟩ := many_eq_diverge hforward h
  · exact hp d hdiverge
  · exact hstuck ((Forward.advances_iff hforward).1 hadvances hv)

theorem Returns.many1 (hp : p.Returns) (hforward : p.Forward) (hadvances : p.Advances) :
    Returns (many1 p) := by
  intro c h
  refine hp.many hforward hadvances c ?_
  rw [many_eq_match_many1, h]

section Separated

variable {separator : Parser β} (hp : p.Returns) (hs : separator.Returns) (hpf : p.Forward)
  (hsf : separator.Forward) (hadvances : (Parser.pair separator p).Advances)

include hp hs hpf hsf hadvances

theorem Returns.separatedTail : Returns (separatedTail p separator) := by
  intro c
  rw [separatedTail_eq_map_many]
  exact Outcome.map_ne_diverge ((hs.pair hp).many (hsf.pair hpf) hadvances c) _

theorem Returns.separatedBy1 : (separatedBy1 p separator).Returns := by
  intro c h
  rw [Parser.separatedBy1] at h
  split at h
  · exact Outcome.map_ne_diverge (hp.separatedTail hs hpf hsf hadvances _) _ h
  · cases h
  · exact hp c ‹_›

theorem Returns.separatedBy : (separatedBy p separator).Returns := by
  intro c h
  rw [Parser.separatedBy] at h
  split at h
  · exact Outcome.map_ne_diverge (hp.separatedTail hs hpf hsf hadvances _) _ h
  · cases h
  · exact hp c ‹_›

end Separated

/-- A level of operators reads a chain and makes a tree of it that has one operator for each pair,
whichever way it groups. -/
theorem operators_eq_map_chain {o : Operators} (hsymbols : ∀ s ∈ o.symbols, s ≠ "")
    (hp : p.Forward) :
    ∃ group : α × List (String × α) → Tree α,
      (∀ q, (group q).operatorCount = q.2.length) ∧
        o.parser p = Parser.map group (chain o.symbol p) := by
  rw [Operators.parser]
  cases o.assoc with
  | left =>
    exact ⟨_, fun q => Tree.operatorCount_groupLeft q.1 q.2, leftOperators_eq_map o.symbol p⟩
  | right =>
    refine ⟨_, fun q => Tree.operatorCount_groupRight q.1 q.2, rightOperators_eq_map ?_ ?_⟩
    · exact fun h => firstSymbol_length_lt hsymbols h
    · exact fun h => (hp h).length_le

theorem Returns.operators {o : Operators} (hsymbols : ∀ s ∈ o.symbols, s ≠ "") (hp : p.Returns)
    (hforward : p.Forward) : (o.parser p).Returns := by
  intro c h
  obtain ⟨group, -, heq⟩ := operators_eq_map_chain hsymbols hforward
  rw [heq] at h
  have hchain : chain o.symbol p c = .diverge :=
    Classical.byContradiction fun hne => Outcome.map_ne_diverge hne group h
  obtain ⟨d, -, hd⟩ := chain_eq_diverge (firstSymbol_forward _ _) hforward
    (fun h => firstSymbol_length_lt hsymbols h) (firstSymbol_reads o.symbols).ne_diverge
    hchain
  exact hp d hd

/-! ## How often a loop goes round -/

/-- **A repetition has at most one round for each byte that it reads.** -/
theorem many_length_add_byteSize_le (hp : p.Forward) (hadvances : p.Advances) {vs : List α}
    (h : many p c = .ok vs d) :
    vs.length + Text.byteSize d.rest ≤ Text.byteSize c.rest := by
  induction vs generalizing c with
  | nil =>
    rcases many_eq_ok h with ⟨-, -, rfl⟩ | ⟨v, d', vs', -, -, -, hvs⟩
    · simp
    · simp at hvs
  | cons v vs ih =>
    rcases many_eq_ok h with ⟨-, hvs, -⟩ | ⟨v', d', vs', hv, -, hmany, hvs⟩
    · simp at hvs
    · obtain ⟨rfl, rfl⟩ := List.cons.inj hvs
      have hrest := ih hmany
      have hsum := (hp hv).position_add_byteSize_rest_eq
      have hlt := hadvances hv
      rw [List.length_cons]
      omega

theorem many_length_le (hp : p.Forward) (hadvances : p.Advances) {vs : List α}
    (h : many p c = .ok vs d) : vs.length ≤ Text.byteSize c.rest :=
  Nat.le_trans (Nat.le_add_right ..) (many_length_add_byteSize_le hp hadvances h)

theorem many1_length_le (hp : p.Forward) (hadvances : p.Advances) {vs : List α}
    (h : many1 p c = .ok vs d) : vs.length ≤ Text.byteSize c.rest := by
  have hmany : many p c = .ok vs d := by rw [many_eq_match_many1, h]
  exact many_length_le hp hadvances hmany

/-- The items behind the first one are rounds, and there is less to read for them than there was
for all. -/
theorem separatedTail_length_le {separator : Parser β} (hp : p.Forward) (hs : separator.Forward)
    (hadvances : (pair separator p).Advances) {v : α} {d' : Cursor} {vs : List α}
    (hv : p c = .ok v d) (h : separatedTail p separator d = .ok vs d') :
    vs.length ≤ Text.byteSize c.rest := by
  rw [separatedTail_eq_map_many] at h
  obtain ⟨pairs, hmany, rfl⟩ := Outcome.map_eq_ok h
  have hrounds := many_length_le (hs.pair hp) hadvances hmany
  have hsum := (hp hv).position_add_byteSize_rest_eq
  have hle := (hp hv).ahead.position_le
  rw [List.length_map]
  omega

theorem separatedBy1_length_le {separator : Parser β} (hp : p.Forward) (hs : separator.Forward)
    (hadvances : (pair separator p).Advances) {vs : List α}
    (h : separatedBy1 p separator c = .ok vs d) : vs.length ≤ Text.byteSize c.rest + 1 := by
  obtain ⟨v, d', vs', hv, htail, rfl⟩ := separatedBy1_eq_ok h
  exact Nat.succ_le_succ (separatedTail_length_le hp hs hadvances hv htail)

theorem separatedBy_length_le {separator : Parser β} (hp : p.Forward) (hs : separator.Forward)
    (hadvances : (pair separator p).Advances) {vs : List α}
    (h : separatedBy p separator c = .ok vs d) : vs.length ≤ Text.byteSize c.rest + 1 := by
  rcases separatedBy_eq_ok h with ⟨-, rfl, -⟩ | ⟨v, d', vs', hv, htail, rfl⟩
  · exact Nat.zero_le _
  · exact Nat.succ_le_succ (separatedTail_length_le hp hs hadvances hv htail)

/-- A symbol is not empty, so a pair of a symbol and an operand is not either. -/
theorem operators_operatorCount_le {o : Operators} (hsymbols : ∀ s ∈ o.symbols, s ≠ "")
    (hp : p.Forward) {t : Tree α} (h : o.parser p c = .ok t d) :
    t.operatorCount ≤ Text.byteSize c.rest := by
  obtain ⟨group, hcount, heq⟩ := operators_eq_map_chain hsymbols hp
  rw [heq] at h
  obtain ⟨⟨v, pairs⟩, hchain, rfl⟩ := map_eq_ok h
  obtain ⟨d', hv, hmany⟩ := chain_eq_ok hchain
  have hsymbol : o.symbol.Forward := firstSymbol_forward _ _
  have hadvances : o.symbol.Advances :=
    (Forward.advances_iff hsymbol).2 fun h => firstSymbol_length_lt hsymbols h
  have hrounds := many_length_le (hsymbol.pair hp) (hadvances.pair hp) hmany
  have hsum := (hp hv).position_add_byteSize_rest_eq
  have hle := (hp hv).ahead.position_le
  rw [hcount]
  show pairs.length ≤ _
  omega

/-! ## How often a search tries its terminator -/

/-- The places at which a search runs its terminator, one after another, from between `past` and the
unread text on. -/
def tries (terminator : Parser α) (past : Text) : Text → List Cursor
  | [] => [⟨past, []⟩]
  | x :: r =>
    match terminator ⟨past, x :: r⟩ with
    | .error _ => ⟨past, x :: r⟩ :: tries terminator (x :: past) r
    | _ => [⟨past, x :: r⟩]

theorem length_tries_le (p : Parser α) (past unread : Text) :
    (tries p past unread).length ≤ unread.length + 1 := by
  fun_induction tries p past unread with
  | case1 past => exact Nat.le_refl _
  | case2 past x r e he ih => exact Nat.succ_le_succ ih
  | case3 past x r => exact Nat.le_add_left ..

theorem length_rest_le_of_mem_tries {past unread : Text} (h : d ∈ tries p past unread) :
    d.rest.length ≤ unread.length := by
  fun_induction tries p past unread with
  | case1 past =>
    obtain rfl := List.mem_singleton.1 h
    exact Nat.le_refl _
  | case2 past x r e he ih =>
    rcases List.mem_cons.1 h with rfl | h
    · exact Nat.le_refl _
    · exact Nat.le_succ_of_le (ih h)
  | case3 past x r =>
    obtain rfl := List.mem_singleton.1 h
    exact Nat.le_refl _

/-- No place is tried twice. -/
theorem nodup_tries (p : Parser α) (past unread : Text) : (tries p past unread).Nodup := by
  fun_induction tries p past unread with
  | case1 past => simp
  | case2 past x r e he ih =>
    refine List.nodup_cons.2 ⟨fun hmem => ?_, ih⟩
    exact absurd (length_rest_le_of_mem_tries hmem) (Nat.not_succ_le_self _)
  | case3 past x r => simp

/-- **What comes of a search is decided at the places tried.** -/
theorem scan_congr_tries (e : ParseError) (past unread : Text)
    (h : ∀ d ∈ tries p past unread, q d = p d) :
    scan q e past unread = scan p e past unread := by
  fun_induction tries p past unread with
  | case1 past => rw [scan, scan, h _ List.mem_cons_self]
  | case2 past x r e' he ih =>
    rw [scan, scan, h _ List.mem_cons_self, he]
    simp only
    rw [ih fun d hd => h d (List.mem_cons_of_mem _ hd)]
  | case3 past x r hne =>
    rw [scan, scan, h _ List.mem_cons_self]
    cases hp : p ⟨past, x :: r⟩ with
    | ok v d => rfl
    | error e' => exact absurd hp (hne e')
    | diverge => rfl

end Parser

/-! ## All of them -/

open Backtrack.Parser

/-- The parser is put together from those of the library without recursion, and no round of a loop
in it succeeds without reading something. -/
inductive Progressive : {α : Type} → Parser α → Prop
  | pure {α : Type} (v : α) : Progressive (Parser.pure v)
  | fail {α : Type} (e : ParseError) : Progressive (Parser.fail e : Parser α)
  | bind {α β : Type} {p : Parser α} {f : α → Parser β} (hp : Progressive p)
      (hf : ∀ v, Progressive (f v)) : Progressive (Parser.bind p f)
  | map {α β : Type} (f : α → β) {p : Parser α} (hp : Progressive p) :
      Progressive (Parser.map f p)
  | mapError {α : Type} (f : ParseError → ParseError) {p : Parser α} (hp : Progressive p) :
      Progressive (Parser.mapError f p)
  | recover {α : Type} {p : Parser α} {f : ParseError → Parser α} (hp : Progressive p)
      (hf : ∀ e, Progressive (f e)) : Progressive (Parser.recover p f)
  | filterMap {α β : Type} (f : α → Option β) {p : Parser α} (hp : Progressive p) :
      Progressive (Parser.filterMap f p)
  | ranged {α : Type} {p : Parser α} (hp : Progressive p) : Progressive (Parser.ranged p)
  | satisfy (f : Char → Bool) : Progressive (Parser.satisfy f)
  | text (s : String) : Progressive (Parser.text s)
  | pattern (p : Pattern) : Progressive p.parser
  | either {α : Type} {p q : Parser α} (hp : Progressive p) (hq : Progressive q) :
      Progressive (Parser.either p q)
  | firstOf {α : Type} {ps : List (Parser α)} (hps : ∀ p ∈ ps, Progressive p) :
      Progressive (Parser.firstOf ps)
  | optional {α : Type} {p : Parser α} (hp : Progressive p) : Progressive (Parser.optional p)
  | many {α : Type} {p : Parser α} (hp : Progressive p) (h : p.Advances) :
      Progressive (Parser.many p)
  | many1 {α : Type} {p : Parser α} (hp : Progressive p) (h : p.Advances) :
      Progressive (Parser.many1 p)
  | separatedBy {α β : Type} {p : Parser α} {separator : Parser β} (hp : Progressive p)
      (hs : Progressive separator) (h : (Parser.pair separator p).Advances) :
      Progressive (Parser.separatedBy p separator)
  | separatedBy1 {α β : Type} {p : Parser α} {separator : Parser β} (hp : Progressive p)
      (hs : Progressive separator) (h : (Parser.pair separator p).Advances) :
      Progressive (Parser.separatedBy1 p separator)
  | followedBy {α β : Type} {p : Parser α} {look : Parser β} (hp : Progressive p)
      (hlook : Progressive look) : Progressive (Parser.followedBy p look)
  | notFollowedBy {α β : Type} {p : Parser α} {look : Parser β} (hp : Progressive p)
      (hlook : Progressive look) : Progressive (Parser.notFollowedBy p look)
  | upTo {α : Type} {terminator : Parser α} (ht : Progressive terminator) :
      Progressive (Parser.upTo terminator)
  | endOfInput : Progressive Parser.endOfInput
  | operators {α : Type} (o : Operators) (h : ∀ s ∈ o.symbols, s ≠ "") {operand : Parser α}
      (ho : Progressive operand) : Progressive (o.parser operand)

namespace Progressive

variable {α : Type} {p : Parser α}

theorem composed (hp : Progressive p) : Composed (fun _ => True) p := by
  induction hp with
  | pure v => exact .pure v
  | fail e => exact .fail trivial e
  | bind _ _ ihp ihf => exact .bind ihp ihf
  | map f _ ih => exact .map f ih
  | mapError f _ ih => exact .mapError trivial f ih
  | recover _ _ ihp ihf => exact .recover ihp ihf
  | filterMap f _ ih => exact .filterMap f ih
  | ranged _ ih => exact .ranged trivial ih
  | satisfy f => exact .satisfy f
  | text s => exact .text s
  | pattern r => exact .pattern r
  | either _ _ ihp ihq => exact .either ihp ihq
  | firstOf _ ih => exact .firstOf ih
  | optional _ ih => exact .optional ih
  | many _ _ ih => exact .many ih
  | many1 _ _ ih => exact .many1 ih
  | separatedBy _ _ _ ihp ihs => exact .separatedBy ihp ihs
  | separatedBy1 _ _ _ ihp ihs => exact .separatedBy1 ihp ihs
  | followedBy _ _ ihp ihlook => exact .followedBy ihp ihlook
  | notFollowedBy _ _ ihp ihlook => exact .notFollowedBy ihp ihlook
  | upTo _ ih => exact .upTo trivial ih
  | endOfInput => exact .endOfInput trivial
  | operators o _ _ ih => exact .operators o ih

theorem forward (hp : Progressive p) : p.Forward := hp.composed.forward

/-- **Progressive parsers return.** -/
theorem returns (hp : Progressive p) : p.Returns := by
  induction hp with
  | pure v => intro c h; cases h
  | fail e => intro c h; cases h
  | bind _ _ ihp ihf => exact ihp.bind ihf
  | map f _ ih => exact ih.map f
  | mapError f _ ih => exact ih.mapError f
  | recover _ _ ihp ihf => exact ihp.recover ihf
  | filterMap f _ ih => exact ih.filterMap f
  | ranged _ ih => exact ih.ranged
  | satisfy f => exact satisfy_returns f
  | text s => exact text_returns s
  | pattern r => exact pattern_returns r
  | either _ _ ihp ihq => exact ihp.either ihq
  | firstOf _ ih => exact Returns.firstOf ih
  | optional _ ih => exact ih.optional
  | many hp h ih => exact ih.many hp.forward h
  | many1 hp h ih => exact ih.many1 hp.forward h
  | separatedBy hp hs h ihp ihs => exact ihp.separatedBy ihs hp.forward hs.forward h
  | separatedBy1 hp hs h ihp ihs => exact ihp.separatedBy1 ihs hp.forward hs.forward h
  | followedBy _ _ ihp ihlook => exact ihp.followedBy ihlook
  | notFollowedBy _ _ ihp ihlook => exact ihp.notFollowedBy ihlook
  | upTo _ ih => exact ih.upTo
  | endOfInput => exact endOfInput_returns
  | operators o h hp ih => exact ih.operators h hp.forward

end Progressive

/-- **Only idle rounds go on for ever.**  A parser that is put together without recursion and
without loops that can have an idle round returns at every place.  Its loops go round at most once
for each unread byte: a round of a repetition adds a value, a round of a separated list adds an item
behind the first one, and a round of a level of operators adds an operator.  A search runs its
terminator at most once for each unread character and once at the end, never twice at one place,
and what it does nowhere else matters. -/
theorem progressive_terminates :
    (∀ {α : Type} {p : Parser α}, Progressive p → ∀ c, p c ≠ .diverge) ∧
    (∀ {α : Type} {p : Parser α}, Progressive p → p.Advances →
      ∀ {c d : Cursor} {vs : List α}, many p c = .ok vs d ∨ many1 p c = .ok vs d →
        vs.length ≤ Text.byteSize c.rest) ∧
    (∀ {α β : Type} {p : Parser α} {separator : Parser β}, Progressive p →
      Progressive separator → (pair separator p).Advances →
        ∀ {c d : Cursor} {vs : List α},
          separatedBy p separator c = .ok vs d ∨ separatedBy1 p separator c = .ok vs d →
            vs.length ≤ Text.byteSize c.rest + 1) ∧
    (∀ {α : Type} {operand : Parser α} {o : Operators}, Progressive operand →
      (∀ s ∈ o.symbols, s ≠ "") → ∀ {c d : Cursor} {t : Tree α}, o.parser operand c = .ok t d →
        t.operatorCount ≤ Text.byteSize c.rest) ∧
    ∀ {α : Type} (terminator : Parser α) (c : Cursor),
      let places := tries terminator c.past c.rest
      places.length ≤ c.rest.length + 1 ∧ places.Nodup ∧
        ∀ other : Parser α, (∀ d ∈ places, other d = terminator d) →
          upTo other c = upTo terminator c := by
  refine ⟨fun hp => hp.returns, fun hp hadvances _ _ _ h => ?_,
    fun hp hs hadvances _ _ _ h => ?_, fun hp hsymbols _ _ _ h => ?_, fun terminator c => ?_⟩
  · rcases h with h | h
    · exact many_length_le hp.forward hadvances h
    · exact many1_length_le hp.forward hadvances h
  · rcases h with h | h
    · exact separatedBy_length_le hp.forward hs.forward hadvances h
    · exact separatedBy1_length_le hp.forward hs.forward hadvances h
  · exact operators_operatorCount_le hsymbols hp.forward h
  · refine ⟨length_tries_le terminator c.past c.rest, nodup_tries terminator c.past c.rest,
      fun other h => ?_⟩
    rw [upTo, upTo, scan_congr_tries _ _ _ h]

/-- A line of three items, one of which is empty: it is read as a separated list and by a level of
operators, and the rounds are counted.  A search for its first comma gets no further than that. -/
theorem progressive_terminates_emptyItems :
    Progressive (many digit) ∧ (pair (char ',') (many digit)).Advances ∧
    (∀ s ∈ (Operators.level [","] .right).symbols, s ≠ "") ∧
    many digit (.start "1,,2;".toList) ≠ .diverge ∧
    (many digit (.start "1,,2;".toList) = .ok ['1'] ⟨['1'], ",,2;".toList⟩ ∧
      ['1'].length ≤ Text.byteSize "1,,2;".toList) ∧
    (separatedBy (many digit) (char ',') (.start "1,,2;".toList) =
        .ok [['1'], [], ['2']] ⟨"2,,1".toList, [';']⟩ ∧
      [['1'], [], ['2']].length ≤ Text.byteSize "1,,2;".toList + 1) ∧
    (∃ t d, (Operators.level [","] .right).parser (many digit) (.start "1,,2;".toList) = .ok t d ∧
      t.operatorCount = 2 ∧ t.operatorCount ≤ Text.byteSize "1,,2;".toList) ∧
    (tries (char ',') [] "1,,2;".toList).length = 2 ∧
    (∀ d ∈ tries (char ',') [] "1,,2;".toList,
      either (char ',') (char ';') d = char ',' d) ∧
    upTo (either (char ',') (char ';')) (.start "1,,2;".toList) =
      upTo (char ',') (.start "1,,2;".toList) := by
  have hdigit : digit.Advances := satisfy_advances _
  have hitem : Progressive (many digit) := .many (.satisfy _) hdigit
  have hcomma : (char ',').Advances := satisfy_advances _
  have hpair : (pair (char ',') (many digit)).Advances := hcomma.pair hitem.forward
  have hsymbols : ∀ s ∈ (Operators.level [","] .right).symbols, s ≠ "" := by
    intro s hs
    obtain rfl := List.mem_singleton.1 (Operators.mem_tryOrder.1 hs)
    decide
  have hmany : many digit (.start "1,,2;".toList) = .ok ['1'] ⟨['1'], ",,2;".toList⟩ := by cbv
  have hlist : separatedBy (many digit) (char ',') (.start "1,,2;".toList) =
      .ok [['1'], [], ['2']] ⟨"2,,1".toList, [';']⟩ := by cbv
  have htree : (Operators.level [","] .right).parser (many digit) (.start "1,,2;".toList) =
      .ok (.node "," (.leaf ['1']) (.node "," (.leaf []) (.leaf ['2'])))
        ⟨"2,,1".toList, [';']⟩ := by cbv
  have hplaces : ∀ d ∈ tries (char ',') [] "1,,2;".toList,
      either (char ',') (char ';') d = char ',' d := by
    intro d hd
    change d ∈ [⟨[], "1,,2;".toList⟩, ⟨['1'], ",,2;".toList⟩] at hd
    simp only [List.mem_cons, List.not_mem_nil, or_false] at hd
    rcases hd with rfl | rfl <;> rfl
  obtain ⟨hreturns, hrounds, hitems, hoperators, hsearch⟩ := progressive_terminates
  exact ⟨hitem, hpair, hsymbols, hreturns hitem _,
    ⟨hmany, hrounds (.satisfy _) hdigit (.inl hmany)⟩,
    ⟨hlist, hitems hitem (.satisfy _) hpair (.inl hlist)⟩,
    ⟨_, _, htree, rfl, hoperators hitem hsymbols htree⟩,
    rfl, hplaces, (hsearch (char ',') (.start "1,,2;".toList)).2.2 _ hplaces⟩

end Backtrack
