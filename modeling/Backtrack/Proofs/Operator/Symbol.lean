import Backtrack.Operator
import Backtrack.Proofs.Taking

/-!
# Reading operator symbols

A symbol is read together with the gaps around it.  It *fits* at the beginning of a text if it
stands there and no guard character stands behind it; a level refuses a text at which none of its
symbols fits, and `operatorSymbol_takes` says that it takes the symbol that does, if it is the only
one.
-/

set_option autoImplicit false

namespace Backtrack

namespace Parser

variable {α : Type}

/-! ## Gaps -/

/-- Whether a character is skipped between tokens. -/
def isWhite (x : Char) : Bool := whiteChars.contains x

/-- A text that is skipped between tokens; it may be empty. -/
def IsGap (w : Text) : Prop := ∀ x ∈ w, isWhite x = true

instance (w : Text) : Decidable (IsGap w) := List.decidableBAll _ w

theorem isGap_nil : IsGap [] := by simp [IsGap]

/-- What is skipped between tokens is blank. -/
theorem isBlank_of_isWhite {x : Char} (h : isWhite x = true) : Text.isBlank x = true := by
  simp only [isWhite, whiteChars, List.contains_iff_mem, List.mem_cons, List.not_mem_nil,
    or_false] at h
  rcases h with rfl | rfl | rfl | rfl <;> rfl

theorem Takes.spaced {p : Parser α} {a w b r : Text} {v : α}
    (ha : Text.Run isWhite a (w ++ (b ++ r))) (hp : p.Takes w (b ++ r) v)
    (hb : Text.Run isWhite b r) : (Parser.spaced p).Takes (a ++ (w ++ b)) r v :=
  Takes.delimitedBy (many_satisfy_takes ha) hp (many_satisfy_takes hb)

theorem Refuses.spaced {p : Parser α} {a s : Text} (ha : Text.Run isWhite a s)
    (hp : p.Refuses s) : (Parser.spaced p).Refuses (a ++ s) :=
  Takes.bind_refuses (many_satisfy_takes ha) (hp.bind _)

theorem many_white_reads : Reads (many white) fun w _ => IsGap w := by
  intro s
  obtain ⟨w, r, rfl, hrun⟩ := Text.exists_run isWhite s
  exact .inl ⟨w, r, w, rfl, many_satisfy_takes hrun, hrun.all⟩

theorem Reads.spaced {p : Parser α} {L : Text → α → Prop} (hp : p.Reads L) :
    (Parser.spaced p).Reads fun s v => ∃ a w b, s = a ++ (w ++ b) ∧ IsGap a ∧ L w v ∧ IsGap b := by
  refine (Reads.delimitedBy many_white_reads hp many_white_reads).mono ?_
  rintro s v ⟨a, w, b, -, -, rfl, ha, hL, hb⟩
  exact ⟨a, w, b, rfl, ha, hL, hb⟩

/-! ## One symbol -/

/-- The symbol stands at the beginning of the text, and no guard character stands behind it. -/
def Fits (guardChars : Text) (s : String) (t : Text) : Prop :=
  ∃ r, t = s.toList ++ r ∧ ∀ x ∈ r.head?, guardChars.contains x = false

theorem guarded_takes {guardChars : Text} (s : String) {r : Text}
    (h : ∀ x ∈ r.head?, guardChars.contains x = false) :
    (notFollowedBy (text s) (oneOf guardChars)).Takes s.toList r s := by
  intro past
  have hlook : (oneOf guardChars).Refuses r := satisfy_refuses h
  rw [notFollowedBy, text_takes s r past]
  simp only
  rw [hlook]

theorem guarded_refuses {guardChars : Text} {s : String} {t : Text} (h : ¬ Fits guardChars s t) :
    (notFollowedBy (text s) (oneOf guardChars)).Refuses t := by
  intro past
  by_cases hs : s.toList <+: t
  · obtain ⟨r, rfl⟩ := hs
    have hx : ∃ x r', r = x :: r' ∧ guardChars.contains x = true := by
      cases r with
      | nil => exact absurd ⟨[], rfl, by simp⟩ h
      | cons x r' =>
        cases hx : guardChars.contains x with
        | true => exact ⟨x, r', rfl, hx⟩
        | false => exact absurd ⟨x :: r', rfl, by simpa using hx⟩ h
    obtain ⟨x, r', rfl, hx⟩ := hx
    have hlook : (oneOf guardChars).Takes [x] r' x := satisfy_takes hx r'
    rw [notFollowedBy, text_takes s (x :: r') past]
    simp only
    rw [show x :: r' = [x] ++ r' from rfl, hlook]
  · rw [notFollowedBy, text_refuses hs past]

/-! ## One of several symbols -/

variable {guardChars : Text}

theorem firstOf_guarded_refuses {l : List String} {t : Text}
    (h : ∀ s ∈ l, ¬ Fits guardChars s t) :
    (firstOf (l.map fun s => notFollowedBy (text s) (oneOf guardChars))).Refuses t := by
  induction l with
  | nil => exact firstOf_nil_refuses t
  | cons s l ih =>
    have hl := ih fun s' hs' => h s' (List.mem_cons_of_mem s hs')
    exact (guarded_refuses (h s (by simp))).firstOf hl

/-- **The only symbol that fits is read**, wherever it stands in the list. -/
theorem firstOf_guarded_takes {l : List String} {s : String} {r : Text} (hs : s ∈ l)
    (hr : ∀ x ∈ r.head?, guardChars.contains x = false)
    (honly : ∀ s' ∈ l, Fits guardChars s' (s.toList ++ r) → s' = s) :
    (firstOf (l.map fun s => notFollowedBy (text s) (oneOf guardChars))).Takes s.toList r s := by
  induction l with
  | nil => simp at hs
  | cons s' l ih =>
    by_cases he : s' = s
    · subst he
      exact (guarded_takes s' hr).firstOf
    · have hs' : s ∈ l := (List.mem_cons.1 hs).resolve_left (Ne.symm he)
      have hl := ih hs' fun q hq => honly q (List.mem_cons_of_mem s' hq)
      exact (guarded_refuses fun hfit => he (honly s' (by simp) hfit)).firstOf_takes hl

theorem firstOf_guarded_reads (l : List String) :
    (firstOf (l.map fun s => notFollowedBy (text s) (oneOf guardChars))).Reads fun w s =>
      s ∈ l ∧ w = s.toList := by
  intro t
  induction l with
  | nil => exact .inr (firstOf_nil_refuses t)
  | cons s l ih =>
    by_cases hfit : Fits guardChars s t
    · obtain ⟨r, rfl, hr⟩ := hfit
      exact .inl ⟨s.toList, r, s, rfl, (guarded_takes s hr).firstOf, by simp, rfl⟩
    · have hno := guarded_refuses hfit
      rcases ih with ⟨w, r, s', rfl, ht, hs', hw⟩ | hr
      · exact .inl ⟨w, r, s', rfl, hno.firstOf_takes ht, List.mem_cons_of_mem s hs', hw⟩
      · exact .inr (hno.firstOf hr)

/-! ## A list of symbols -/

/-- One of the symbols with the gaps around it. -/
def IsSymbol (symbols : List String) (m : Text) (op : String) : Prop :=
  ∃ a b, m = a ++ (op.toList ++ b) ∧ IsGap a ∧ op ∈ symbols ∧ IsGap b

theorem firstSymbol_reads (symbols : List String) :
    (firstSymbol symbols guardChars).Reads (IsSymbol symbols) := by
  refine (firstOf_guarded_reads symbols).spaced.mono ?_
  rintro m op ⟨a, w, b, rfl, ha, ⟨hop, rfl⟩, hb⟩
  exact ⟨a, b, rfl, ha, hop, hb⟩

theorem firstSymbol_refuses {symbols : List String} {a t : Text} (ha : Text.Run isWhite a t)
    (h : ∀ s ∈ symbols, ¬ Fits guardChars s t) : (firstSymbol symbols guardChars).Refuses (a ++ t) :=
  Refuses.spaced ha (firstOf_guarded_refuses h)

/-- **A symbol is read with its gaps** if no other symbol fits in its place. -/
theorem firstSymbol_takes {symbols : List String} {op : String} {a b r : Text}
    (ha : Text.Run isWhite a (op.toList ++ (b ++ r))) (hop : op ∈ symbols)
    (hguard : ∀ x ∈ (b ++ r).head?, guardChars.contains x = false)
    (honly : ∀ s ∈ symbols, Fits guardChars s (op.toList ++ (b ++ r)) → s = op)
    (hb : Text.Run isWhite b r) :
    (firstSymbol symbols guardChars).Takes (a ++ (op.toList ++ b)) r op :=
  Takes.spaced ha (firstOf_guarded_takes hop hguard honly) hb

end Parser

end Backtrack
