import Backtrack.Proofs.Number.Signed

/-!
# The longest numeral is read

Digits, a point and digits again can be cut in many places, and most of the cuts are numerals as
well.  The parser of decimal numbers does not compare them: it tries the form with a point, and gives
back the digits in front if no point with a digit behind it follows.  That this comes to the same as
taking the longest numeral there is, and that the text it puts together from its parts is the text
that it has read, is what has to be shown.

* `LongestNumeral s w` — `w` is the longest numeral with which `s` begins;
* `NumeralRead f c` — the outcome of reading the longest numeral at `c`, where `f` makes a value of
  its text, or of finding none;
* `numeral_read` — whatever a value is made of, it is made of the longest numeral;
* `decimals_longest` — decimal numbers with and without a sign.
-/

set_option autoImplicit false

namespace Backtrack

namespace Numeral

/-- The longest numeral with which a text begins. -/
structure LongestNumeral (s w : Text) : Prop where
  /-- The text begins with it. -/
  isPrefix : w <+: s
  /-- It is a numeral. -/
  isNumeral : IsNumeral w
  /-- No other numeral with which the text begins has more characters. -/
  longest : ∀ u, u <+: s → IsNumeral u → u.length ≤ w.length

/-- What comes of reading a number at `c` if `f` makes its value of its text. -/
inductive NumeralRead {α : Type} (f : Text → α) (c : Cursor) : Outcome α → Prop
  /-- The longest numeral is read. -/
  | found {w r : Text} (hrest : c.rest = w ++ r) (hw : LongestNumeral c.rest w) :
      NumeralRead f c (.ok (f w) (c.moveTo w r))
  /-- There is no numeral. -/
  | missing (h : ∀ u, u <+: c.rest → ¬ IsNumeral u) : NumeralRead f c (.error .mismatch)

variable {α β : Type} {f : Text → α} {c : Cursor} {o : Outcome α}

theorem NumeralRead.map (h : NumeralRead f c o) (g : α → β) :
    NumeralRead (fun w => g (f w)) c (o.map g) := by
  cases h with
  | found hrest hw => exact .found hrest hw
  | missing h => exact .missing h

/-- A number is read wherever a numeral stands. -/
theorem NumeralRead.exists_ok_iff (h : NumeralRead f c o) :
    (∃ v d, o = .ok v d) ↔ ∃ u, u <+: c.rest ∧ IsNumeral u := by
  cases h with
  | @found w r hrest hw => exact ⟨fun _ => ⟨w, hw.isPrefix, hw.isNumeral⟩, fun _ => ⟨_, _, rfl⟩⟩
  | missing hno =>
    constructor
    · rintro ⟨v, d, h⟩
      simp at h
    · rintro ⟨u, hu, hnumeral⟩
      exact absurd hnumeral (hno u hu)

end Numeral

namespace Parser

open Numeral

/-- What is taken in front of `r` is the longest numeral, since no longer one is left over. -/
theorem longestNumeral_of_takes {w r : Text} {v : String} (hw : IsNumeral w)
    (h : numeral.Takes w r v) : LongestNumeral (w ++ r) w := by
  refine ⟨List.prefix_append w r, hw, fun u hu hnumeral => ?_⟩
  obtain ⟨t, ht⟩ := hu
  obtain ⟨x, r', v', rfl, htakes⟩ := numeral_takesAtLeast hnumeral t
  have hsame : u ++ x ++ r' = w ++ r := by rw [List.append_assoc, ht]
  obtain ⟨rfl, -, -⟩ := htakes.unique h hsame
  rw [List.length_append]
  exact Nat.le_add_right ..

/-- **The text of a number is the longest numeral.** -/
theorem numeral_read (c : Cursor) : NumeralRead String.ofList c (numeral c) := by
  rcases numeral_reads c.rest with ⟨w, r, v, hrest, htakes, hw, rfl⟩ | hrefuses
  · have hread : numeral c = .ok (String.ofList w) (c.moveTo w r) := by
      have := htakes c.past
      rwa [← hrest] at this
    have hlongest := longestNumeral_of_takes hw htakes
    rw [← hrest] at hlongest
    rw [hread]
    exact .found hrest hlongest
  · have hread : numeral c = .error .mismatch := hrefuses c.past
    rw [hread]
    refine .missing fun u hu hnumeral => ?_
    obtain ⟨t, ht⟩ := hu
    obtain ⟨x, r', v', rfl, htakes⟩ := numeral_takesAtLeast hnumeral t
    have hsame : u ++ x ++ r' = c.rest := by rw [List.append_assoc, ht]
    exact htakes.not_refuses (hsame ▸ hrefuses)

theorem unsignedDecimal_read (c : Cursor) : NumeralRead toFloat c (unsignedDecimal c) := by
  have hread := (numeral_read c).map fun s => toFloat s.toList
  simp only [String.toList_ofList] at hread
  exact hread

theorem decimal_read (c : Cursor) :
    NumeralRead (fun w => if leadingSign? c.rest = some '-' then -toFloat w else toFloat w)
      (behindSign c) (decimal c) := by
  rw [decimal, signed_apply]
  exact (unsignedDecimal_read (behindSign c)).map fun x =>
    if leadingSign? c.rest = some '-' then Float.neg x else x

/-- **Decimal numbers take the longest numeral.**  A number without a sign is read exactly if the
text begins with a numeral; the longest one is taken, and the value is the float of that very text.
With a sign it is the same behind the sign, if there is one, and a minus negates the value; where no
numeral follows, the sign is not read either. -/
theorem decimals_longest (c : Cursor) :
    NumeralRead toFloat c (unsignedDecimal c) ∧
    ((∃ x d, unsignedDecimal c = .ok x d) ↔ ∃ u, u <+: c.rest ∧ IsNumeral u) ∧
    NumeralRead (fun w => if leadingSign? c.rest = some '-' then -toFloat w else toFloat w)
      (behindSign c) (decimal c) ∧
    ((∃ x d, decimal c = .ok x d) ↔ ∃ u, u <+: afterSign c.rest ∧ IsNumeral u) :=
  ⟨unsignedDecimal_read c, (unsignedDecimal_read c).exists_ok_iff, decimal_read c,
    (decimal_read c).exists_ok_iff⟩

/-- A second point ends the number, and a point without digits behind it does not belong to it. -/
example : numeral (.start ".5.6".toList) = .ok ".5" ⟨"5.".toList, ".6".toList⟩ ∧
    numeral (.start "3.x".toList) = .ok "3" ⟨['3'], ".x".toList⟩ := by
  cbv

end Parser

end Backtrack
