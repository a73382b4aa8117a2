import Backtrack.Itemized
import Backtrack.Proofs.Operator.Chain
import Backtrack.Proofs.Operator.Grouping

/-!
# Where an itemized text ends

Whether a `;` separates two items depends only on what stands behind it: the end of the text or a
character that does not continue a separator, or such a continuation after a single `+`.  Every
other `;` is illegal, and a list goes up to the first illegal one.

* `legal` — what may stand behind a `;`;
* `LegalUpTo w r` — in `w ++ r`, the text `r` begins with the first illegal `;`, or it is empty and
  there is none;
* `cut` — a text cut at every `;`, with a `+` directly behind it as a part of the separator.  It
  goes through the text character by character and knows nothing of items, blanks and guards;
* `list_takes` — a list takes the text in front of the first illegal `;`, and its tree is made of
  the segments of the cut.  What has to be shown is that the blanks skipped behind a separator make
  no difference, because the items are trimmed anyway, and that no `;` is passed over.
-/

set_option autoImplicit false

namespace Backtrack

namespace Itemized

open Backtrack.Parser

/-! ## Legal separators -/

/-- Nothing at the beginning of the text continues a separator. -/
def clear : Text → Bool
  | [] => true
  | x :: _ => x != ';' && x != '+'

/-- The text may stand behind a `;`: nothing continues the separator, or a `+` does and nothing
continues that. -/
def legal : Text → Bool
  | '+' :: r => clear r
  | r => clear r

theorem legal_of_clear {s : Text} (h : clear s = true) : legal s = true := by
  rw [legal.eq_2 s, h]
  rintro r rfl
  simp [clear] at h

/-- The first illegal `;` of `w ++ r` is the one with which `r` begins, and if there is none, `r` is
empty. -/
structure LegalUpTo (w r : Text) : Prop where
  /-- Every `;` in front is legal. -/
  legal_of_eq : ∀ {p q : Text}, w = p ++ ';' :: q → legal (q ++ r) = true
  /-- What is left begins with a `;` that is not. -/
  illegal : r = [] ∨ ∃ q, r = ';' :: q ∧ legal q = false

/-- Every `;` of the text is legal. -/
def WellSeparated (s : Text) : Prop := ∀ {p q : Text}, s = p ++ ';' :: q → legal q = true

theorem exists_legalUpTo (s : Text) : ∃ w r, s = w ++ r ∧ LegalUpTo w r := by
  induction s with
  | nil => exact ⟨[], [], rfl, by simp, .inl rfl⟩
  | cons x s ih =>
    by_cases hx : x = ';' ∧ legal s = false
    · exact ⟨[], x :: s, rfl, by simp, .inr ⟨s, by rw [hx.1], hx.2⟩⟩
    · obtain ⟨w, r, rfl, hw⟩ := ih
      refine ⟨x :: w, r, rfl, fun {p q} hp => ?_, hw.illegal⟩
      cases p with
      | nil =>
        obtain ⟨rfl, rfl⟩ := List.cons.inj hp
        simpa using hx
      | cons y p => exact hw.legal_of_eq (List.cons.inj hp).2

/-- A text is well separated exactly if nothing is left of it behind its legal part. -/
theorem LegalUpTo.wellSeparated_iff {w r : Text} (h : LegalUpTo w r) :
    WellSeparated (w ++ r) ↔ r = [] := by
  constructor
  · intro hs
    rcases h.illegal with hr | ⟨q, rfl, hq⟩
    · exact hr
    · have := hs (p := w) rfl
      simp [hq] at this
  · rintro rfl p q hw
    rw [List.append_nil] at hw
    simpa using h.legal_of_eq hw

/-- What is legal up to some place is so from any place in front of it on. -/
theorem LegalUpTo.of_append {u w r : Text} (h : LegalUpTo (u ++ w) r) : LegalUpTo w r :=
  ⟨fun {p q} hw => h.legal_of_eq (p := u ++ p) (by rw [hw, List.append_assoc]), h.illegal⟩

/-! ## Cutting -/

/-- The first segment of a text, and the other ones with the separators in front of them. -/
def cut : Text → Text × List (String × Text)
  | [] => ([], [])
  | ';' :: '+' :: s => ([], (";+", (cut s).1) :: (cut s).2)
  | ';' :: s => ([], (";", (cut s).1) :: (cut s).2)
  | x :: s => (x :: (cut s).1, (cut s).2)

theorem cut_fst_eq_nil {w : Text} (hw : ∀ x ∈ w.head?, x = ';') : (cut w).1 = [] := by
  cases w with
  | nil => rfl
  | cons x s =>
    obtain rfl : x = ';' := hw x rfl
    by_cases hs : ∃ s', s = '+' :: s'
    · obtain ⟨s', rfl⟩ := hs
      rfl
    · rw [cut.eq_3 s fun s' hs' => hs ⟨s', hs'⟩]

/-- A text without `;` that goes up to a `;` or to the end is the first segment. -/
theorem cut_segment {u w : Text} (hu : ∀ x ∈ u, x ≠ ';') (hw : ∀ x ∈ w.head?, x = ';') :
    cut (u ++ w) = (u, (cut w).2) := by
  induction u with
  | nil =>
    rw [List.nil_append, ← cut_fst_eq_nil hw]
  | cons x u ih =>
    have hx : x ≠ ';' := hu x (by simp)
    rw [List.cons_append, cut.eq_4 x _ (fun _ h _ => hx h) hx,
      ih fun y hy => hu y (List.mem_cons_of_mem x hy)]

/-! ## Reading separators -/

theorem symbols_separators : separators.symbols = [";+", ";"] :=
  Operators.tryOrder_of_descending (by decide)

theorem toList_semicolon : ";".toList = [';'] := rfl

theorem toList_semicolon_plus : ";+".toList = [';', '+'] := rfl

theorem mem_separators {s : String} : s ∈ separators.symbols ↔ s = ";+" ∨ s = ";" := by
  simp [symbols_separators]

/-- A `;` that is legal begins a separator, at which the text is cut. -/
theorem exists_separator {q r : Text} (h : legal (q ++ r) = true) (hr : ∀ x ∈ r.head?, x = ';') :
    ∃ op u, ';' :: q = op.toList ++ u ∧ op ∈ separators.symbols ∧ clear (u ++ r) = true ∧
      cut (';' :: q) = ([], (op, (cut u).1) :: (cut u).2) := by
  by_cases hq : ∃ q', q = '+' :: q'
  · obtain ⟨q', rfl⟩ := hq
    exact ⟨";+", q', rfl, by simp [mem_separators], h, rfl⟩
  · have hplus : ∀ q', q = '+' :: q' → False := fun q' hq' => hq ⟨q', hq'⟩
    have hclear : legal (q ++ r) = clear (q ++ r) := by
      refine legal.eq_2 _ fun r' hr' => ?_
      cases q with
      | nil =>
        rw [List.nil_append] at hr'
        exact absurd (hr '+' (by rw [hr']; rfl)) (by decide)
      | cons x q => exact hplus q (by rw [(List.cons.inj hr').1])
    exact ⟨";", q, rfl, by simp [mem_separators], hclear ▸ h, cut.eq_3 q hplus⟩

theorem guard_iff_clear {r : Text} :
    (∀ x ∈ r.head?, separators.guardChars.contains x = false) ↔ clear r = true := by
  have hguard : separators.guardChars = [';', '+'] := rfl
  cases r with
  | nil => simp [clear]
  | cons x r => simp [clear, hguard]

theorem fits_iff {s : String} {t : Text} :
    Fits separators.guardChars s t ↔ ∃ r, t = s.toList ++ r ∧ clear r = true := by
  simp only [Fits, guard_iff_clear]

/-- Only one separator fits in its place: behind `;+` stands no `+`, and behind the `;` in `;+`
stands one. -/
theorem eq_of_fits {op s : String} {r : Text} (hop : op ∈ separators.symbols)
    (hs : s ∈ separators.symbols) (hclear : clear r = true)
    (hfit : Fits separators.guardChars s (op.toList ++ r)) : s = op := by
  obtain ⟨t, ht, hclear'⟩ := fits_iff.1 hfit
  rcases mem_separators.1 hop with rfl | rfl
  · rcases mem_separators.1 hs with rfl | rfl
    · rfl
    · rw [toList_semicolon, toList_semicolon_plus] at ht
      obtain rfl := (List.cons.inj ht).2
      simp [clear] at hclear'
  · rcases mem_separators.1 hs with rfl | rfl
    · rw [toList_semicolon, toList_semicolon_plus] at ht
      obtain rfl := (List.cons.inj ht).2
      simp [clear] at hclear
    · rfl

theorem run_semicolon (r : Text) : Text.Run isWhite [] (';' :: r) := by
  refine ⟨by simp, fun x hx => ?_⟩
  obtain rfl : ';' = x := Option.some.inj hx
  rfl

/-- **A separator is read with the blanks behind it** if nothing continues it. -/
theorem symbol_takes {op : String} {b r : Text} (hop : op ∈ separators.symbols)
    (hclear : clear (b ++ r) = true) (hb : Text.Run isWhite b r) :
    separators.symbol.Takes (op.toList ++ b) r op := by
  have hstart : Text.Run isWhite [] (op.toList ++ (b ++ r)) := by
    rcases mem_separators.1 hop with rfl | rfl
    · exact run_semicolon _
    · exact run_semicolon _
  exact firstSymbol_takes hstart hop (guard_iff_clear.2 hclear)
    (fun s hs => eq_of_fits hop hs hclear) hb

/-- **An illegal `;` is not read**, and at the end of the text there is nothing to read. -/
theorem symbol_refuses {r : Text} (h : r = [] ∨ ∃ q, r = ';' :: q ∧ legal q = false) :
    separators.symbol.Refuses r := by
  rcases h with rfl | ⟨q, rfl, hq⟩
  · refine firstSymbol_refuses (a := []) ⟨by simp, by simp⟩ fun s hs hfit => ?_
    obtain ⟨t, ht, -⟩ := fits_iff.1 hfit
    rcases mem_separators.1 hs with rfl | rfl <;> simp at ht
  · refine firstSymbol_refuses (run_semicolon q) fun s hs hfit => ?_
    obtain ⟨t, ht, hclear⟩ := fits_iff.1 hfit
    have hlegal : legal q = true := by
      rcases mem_separators.1 hs with rfl | rfl
      · rw [toList_semicolon_plus] at ht
        rw [(List.cons.inj ht).2]
        exact hclear
      · rw [toList_semicolon] at ht
        rw [(List.cons.inj ht).2]
        exact legal_of_clear hclear
    rw [hq] at hlegal
    cases hlegal

/-! ## Reading items -/

/-- The value of an item: its text without the blanks around it. -/
def trimmed (w : Text) : String := String.ofList (Text.trim w)

theorem trimmed_append {b : Text} (hb : IsGap b) (w : Text) : trimmed (b ++ w) = trimmed w := by
  rw [trimmed, trimmed, Text.trim, Text.trim, Text.trimStart, Text.trimStart,
    List.dropWhile_append_of_pos fun x hx => isBlank_of_isWhite (hb x hx)]

theorem terminator_refuses {x : Char} (hx : x ≠ ';') (s : Text) :
    terminator.Refuses (x :: s) := by
  have hplus : (text ";+").Refuses (x :: s) :=
    text_refuses (by simp [toList_semicolon_plus, hx.symm])
  have hsemicolon : (text ";").Refuses (x :: s) :=
    text_refuses (by simp [toList_semicolon, hx.symm])
  have hend : (firstOf [endOfInput]).Refuses (x :: s) := fun _ => rfl
  exact (hplus.map _).firstOf ((hsemicolon.map _).firstOf hend)

theorem terminator_ok {r : Text} (hr : ∀ x ∈ r.head?, x = ';') (past : Text) :
    ∃ d, terminator ⟨past, r⟩ = .ok () d := by
  cases r with
  | nil => exact ⟨_, rfl⟩
  | cons x r =>
    obtain rfl : x = ';' := hr x rfl
    by_cases hplus : ";+".toList <+: ';' :: r
    · obtain ⟨r', hr'⟩ := hplus
      rw [← hr']
      exact ⟨_, ((text_takes ";+" r').map _).firstOf past⟩
    · have hsemicolon : (firstOf [ignore (text ";"), endOfInput]).Takes [';'] r () :=
        ((text_takes ";" r).map _).firstOf
      exact ⟨_, ((text_refuses hplus).map _).firstOf_takes hsemicolon past⟩

/-- **An item goes up to the next `;`**, legal or not, or to the end of the text. -/
theorem item_takes {w r : Text} (hw : ∀ x ∈ w, x ≠ ';') (hr : ∀ x ∈ r.head?, x = ';') :
    item.Takes w r (trimmed w) := by
  have h : (upTo terminator).Takes w r (String.ofList w, ()) := by
    refine upTo_takes (fun {u t x} hwx past => ?_) (terminator_ok hr)
    exact ⟨_, terminator_refuses (hw x (by rw [hwx]; simp)) _ past⟩
  have hitem := h.map fun q => String.ofList (Text.trim q.1.toList)
  rwa [String.toList_ofList] at hitem

/-! ## Reading a list -/

/-- Segments as items, each under the separator in front of it. -/
def items (pairs : List (String × Text)) : List (String × String) :=
  pairs.map fun q => (q.1, trimmed q.2)

/-- The tree of a text that is cut at its separators. -/
def tree (w : Text) : Tree String := .groupLeft (trimmed (cut w).1) (items (cut w).2)

theorem LegalUpTo.head_eq {w r : Text} (h : LegalUpTo w r) : ∀ x ∈ r.head?, x = ';' := by
  intro x hx
  rcases h.illegal with rfl | ⟨q, rfl, -⟩
  · simp at hx
  · exact (Option.some.inj hx).symm

/-- An item is read from the legal part up to its first `;`, or else up to its end. -/
theorem LegalUpTo.exists_item {w r : Text} (h : LegalUpTo w r) :
    ∃ u w', w = u ++ w' ∧ (∀ x ∈ u, x ≠ ';') ∧ (∀ x ∈ w'.head?, x = ';') ∧
      item.Takes u (w' ++ r) (trimmed u) := by
  obtain ⟨u, w', rfl, hrun⟩ := Text.exists_run (fun x => x != ';') w
  have hrun' : Text.Run (fun x => x != ';') u (w' ++ r) :=
    hrun.append_right fun x hx => by rw [h.head_eq x hx]; rfl
  exact ⟨u, w', rfl, by simpa using hrun.all, by simpa using hrun.stop,
    item_takes (by simpa using hrun'.all) (by simpa using hrun'.stop)⟩

/-- **One round**: in front of a legal `;` a separator and an item are read, and they are what the
text is first cut into.  The blanks that are read with the separator belong to the segment behind
it, and trimming removes them. -/
theorem LegalUpTo.exists_round {q r : Text} (h : LegalUpTo (';' :: q) r) :
    ∃ op m u w', ';' :: q = m ++ (u ++ w') ∧ m ≠ [] ∧ LegalUpTo w' r ∧
      (∀ x ∈ w'.head?, x = ';') ∧ separators.symbol.Takes m (u ++ (w' ++ r)) op ∧
      item.Takes u (w' ++ r) (trimmed u) ∧
      items (cut (';' :: q)).2 = (op, trimmed u) :: items (cut w').2 := by
  obtain ⟨op, s, hs, hop, hclear, hcut⟩ :=
    exists_separator (h.legal_of_eq (p := []) rfl) h.head_eq
  obtain ⟨b, v, rfl, hb⟩ := Text.exists_run isWhite s
  have hlegal : LegalUpTo v r := by
    rw [hs, ← List.append_assoc] at h
    exact h.of_append
  obtain ⟨u, w', rfl, hu, hw', hitem⟩ := hlegal.exists_item
  have hb' : Text.Run isWhite b (u ++ w' ++ r) :=
    hb.append_right fun x hx => by rw [h.head_eq x hx]; rfl
  have hsymbol : separators.symbol.Takes (op.toList ++ b) (u ++ w' ++ r) op :=
    symbol_takes hop (by rwa [List.append_assoc] at hclear) hb'
  have hsegment : ∀ x ∈ b ++ u, x ≠ ';' := by
    intro x hx
    rcases List.mem_append.1 hx with hx | hx
    · rintro rfl
      cases hb.all _ hx
    · exact hu x hx
  have hitems : items (cut (';' :: q)).2 = (op, trimmed u) :: items (cut w').2 := by
    rw [hcut, ← List.append_assoc, cut_segment hsegment hw', items, List.map_cons,
      trimmed_append hb.all]
    rfl
  have hne : op.toList ++ b ≠ [] := by
    rcases mem_separators.1 hop with rfl | rfl <;> simp
  rw [List.append_assoc] at hsymbol
  exact ⟨op, op.toList ++ b, u, w', by rw [hs, List.append_assoc], hne, hlegal.of_append, hw',
    hsymbol, hitem, hitems⟩

/-- **The loop takes separators and items up to the first illegal `;`.**  A round begins in front of
a `;` or at the end, since that is where an item stops. -/
theorem loop_takes {w r : Text} (h : LegalUpTo w r) (hw : ∀ x ∈ w.head?, x = ';')
    (t : Tree String) :
    Takes (leftLoop separators.symbol item t) w r (t.hang (items (cut w).2)) := by
  induction hn : w.length using Nat.strongRecOn generalizing w t with
  | ind n ih =>
    cases w with
    | nil => exact leftLoop_stop (symbol_refuses h.illegal)
    | cons x q =>
      obtain rfl : x = ';' := hw x rfl
      obtain ⟨op, m, u, w', hq, hm, hlegal, hw', hsymbol, hitem, hitems⟩ := h.exists_round
      have hlt : w'.length < n := by
        rw [← hn, hq]
        exact length_lt_append_append hm u w'
      rw [hitems, Tree.hang_cons, hq]
      exact leftLoop_step hsymbol hm hitem (ih w'.length hlt hlegal hw' _ rfl)

/-- **A list takes the text in front of the first illegal `;`.** -/
theorem list_takes {w r : Text} (h : LegalUpTo w r) : list.Takes w r (tree w) := by
  obtain ⟨u, w', rfl, hu, hw', hitem⟩ := h.exists_item
  rw [tree, cut_segment hu hw', Tree.groupLeft]
  exact leftOperators_takes_append hitem (loop_takes h.of_append hw' _)

/-- **A list never fails, and a text is a list as a whole exactly if it is well separated.**  The
list stops at the first illegal `;`, or at the end of the text if there is none, and its tree is
made of the segments into which the text in front is cut. -/
theorem list_run (s : Text) :
    ∃ w r, s = w ++ r ∧ LegalUpTo w r ∧ list.run s = .ok (tree w) ⟨w.reverse, r⟩ ∧
      (WellSeparated s → (ended list).run s = .ok (tree s) ⟨s.reverse, []⟩) ∧
      (¬ WellSeparated s →
        r ≠ [] ∧ (ended list).run s = .error (.expectEnd (String.ofList r))) := by
  obtain ⟨w, r, rfl, h⟩ := exists_legalUpTo s
  have htakes := list_takes h
  refine ⟨w, r, rfl, h, ?_, fun hs => ?_, fun hs => ?_⟩
  · have hrun := htakes []
    rwa [List.append_nil] at hrun
  · obtain rfl := h.wellSeparated_iff.1 hs
    have hrun := htakes.ended []
    simpa [Parser.run, Cursor.start] using hrun
  · have hr : r ≠ [] := fun hr => hs (h.wellSeparated_iff.2 hr)
    exact ⟨hr, htakes.ended_error hr []⟩

end Itemized

end Backtrack
