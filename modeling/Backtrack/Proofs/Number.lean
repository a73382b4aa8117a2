import Backtrack.Parser.Number
import Backtrack.Proofs.Taking

/-!
# Numerals, and the parser that reads them

A numeral is a run of digits, or a point with digits after it and perhaps before it.  The parser
tries the form with the point first and falls back on the digits, and `numeral_run` says what
comes of that on the run of digits with which a text begins.  From it follow

* `numeral_reads` — what is taken is a numeral, and its text is the value;
* `numeral_takes` — a numeral is taken as a whole in front of anything that does not continue it;
* `numeral_takesAtLeast` — no numeral at the beginning of a text is longer than what is taken.
-/

set_option autoImplicit false

namespace Backtrack

namespace Numeral

/-- A text of one or more decimal digits. -/
def IsDigits (w : Text) : Prop := w ≠ [] ∧ ∀ x ∈ w, isDigit x = true

/-- The text of a decimal number without a sign. -/
inductive IsNumeral : Text → Prop
  /-- Digits. -/
  | whole {w : Text} (h : IsDigits w) : IsNumeral w
  /-- A point with digits after it and perhaps before it. -/
  | pointed {w f : Text} (hw : ∀ x ∈ w, isDigit x = true) (hf : IsDigits f) :
      IsNumeral (w ++ '.' :: f)

/-- A numeral begins with a digit or with a point. -/
theorem IsNumeral.exists_cons {w : Text} (h : IsNumeral w) :
    ∃ x w', w = x :: w' ∧ (isDigit x = true ∨ x = '.') := by
  cases h with
  | whole h =>
    cases w with
    | nil => exact absurd rfl h.1
    | cons x w => exact ⟨x, w, rfl, .inl (h.2 x (by simp))⟩
  | @pointed w f hw hf =>
    cases w with
    | nil => exact ⟨'.', f, rfl, .inr rfl⟩
    | cons x w => exact ⟨x, w ++ '.' :: f, rfl, .inl (hw x (by simp))⟩

end Numeral

namespace Parser

open Numeral

theorem digits_takes {w r : Text} (hw : w ≠ []) (h : Text.Run isDigit w r) :
    digits.Takes w r (String.ofList w) :=
  (many1_satisfy_takes hw h).map String.ofList

theorem digits_refuses {s : Text} (h : ∀ x ∈ s.head?, isDigit x = false) : digits.Refuses s :=
  (many1_satisfy_refuses h).map String.ofList

/-- Optional digits are a run of digits that may be empty. -/
theorem optional_digits_takes {w r : Text} (h : Text.Run isDigit w r) :
    ∃ o, (optional digits).Takes w r o ∧ o.getD "" = String.ofList w := by
  by_cases hw : w = []
  · subst hw
    exact ⟨none, (digits_refuses h.stop).optional, rfl⟩
  · exact ⟨some (String.ofList w), (digits_takes hw h).optional, rfl⟩

theorem pointed_takes {w f r : Text} (hw : ∀ x ∈ w, isDigit x = true) (hf : f ≠ [])
    (h : Text.Run isDigit f r) :
    pointed.Takes (w ++ '.' :: f) r (String.ofList (w ++ '.' :: f)) := by
  have hrun : Text.Run isDigit w ('.' :: (f ++ r)) := ⟨hw, by simp [isDigit, digitChars]⟩
  obtain ⟨o, ho, hval⟩ := optional_digits_takes hrun
  have hpoint : (char '.').Takes ['.'] (f ++ r) '.' := satisfy_takes (by decide) _
  have hfraction := (digits_takes hf h).bind_pure fun fraction => o.getD "" ++ "." ++ fraction
  have htext : o.getD "" ++ "." ++ String.ofList f = String.ofList (w ++ '.' :: f) := by
    rw [hval, ← String.toList_inj]
    simp
  rw [htext] at hfraction
  exact ho.bind (hpoint.bind hfraction)

theorem pointed_refuses {w r : Text} (h : Text.Run isDigit w r)
    (hr : ∀ f, r = '.' :: f → ∀ x ∈ f.head?, isDigit x = false) : pointed.Refuses (w ++ r) := by
  obtain ⟨o, ho, -⟩ := optional_digits_takes h
  refine ho.bind_refuses ?_
  cases r with
  | nil => exact (satisfy_refuses (by simp)).bind _
  | cons y f =>
    by_cases hy : y = '.'
    · subst hy
      have hpoint : (char '.').Takes ['.'] f '.' := satisfy_takes (by decide) f
      exact hpoint.bind_refuses ((digits_refuses (hr f rfl)).bind _)
    · exact (satisfy_refuses (by simpa using hy)).bind _

/-- **What is read at a run of digits**: the run with a point and the digits behind it if there are
any, and otherwise the run alone, unless it is empty. -/
theorem numeral_run {w r : Text} (h : Text.Run isDigit w r) :
    (∃ f r', r = '.' :: (f ++ r') ∧ IsDigits f ∧
      numeral.Takes (w ++ '.' :: f) r' (String.ofList (w ++ '.' :: f))) ∨
    (w ≠ [] ∧ numeral.Takes w r (String.ofList w)) ∨ (w = [] ∧ numeral.Refuses r) := by
  by_cases hr : ∀ f, r = '.' :: f → ∀ x ∈ f.head?, isDigit x = false
  · have hno := pointed_refuses h hr
    right
    by_cases hw : w = []
    · subst hw
      exact .inr ⟨rfl, hno.firstOf ((digits_refuses h.stop).firstOf (firstOf_nil_refuses r))⟩
    · exact .inl ⟨hw, hno.firstOf_takes (digits_takes hw h).firstOf⟩
  · left
    simp only [Classical.not_forall] at hr
    obtain ⟨g, rfl, x, hx, hdigit⟩ := hr
    obtain ⟨f, r', rfl, hrun⟩ := Text.exists_run isDigit g
    have hf : f ≠ [] := by
      rintro rfl
      exact hdigit (hrun.stop x hx)
    exact ⟨f, r', rfl, ⟨hf, hrun.all⟩, (pointed_takes h.all hf hrun).firstOf⟩

theorem numeral_refuses {s : Text} (h : ∀ x ∈ s.head?, isDigit x = false ∧ x ≠ '.') :
    numeral.Refuses s := by
  have hrun : Text.Run isDigit [] s := ⟨by simp, fun x hx => (h x hx).1⟩
  rcases numeral_run hrun with ⟨f, r', rfl, -⟩ | ⟨hw, -⟩ | ⟨-, hr⟩
  · exact absurd rfl (h '.' rfl).2
  · exact absurd rfl hw
  · exact hr

theorem numeral_reads : numeral.Reads fun w v => IsNumeral w ∧ v = String.ofList w := by
  intro s
  obtain ⟨w, r, rfl, hrun⟩ := Text.exists_run isDigit s
  rcases numeral_run hrun with ⟨f, r', rfl, hf, ht⟩ | ⟨hw, ht⟩ | ⟨rfl, hr⟩
  · exact .inl ⟨w ++ '.' :: f, r', _, by simp, ht, .pointed hrun.all hf, rfl⟩
  · exact .inl ⟨w, r, _, rfl, ht, .whole ⟨hw, hrun.all⟩, rfl⟩
  · exact .inr hr

/-- **A numeral is read as a whole** in front of anything but a digit or a point. -/
theorem numeral_takes {w r : Text} (h : IsNumeral w)
    (hr : ∀ x ∈ r.head?, isDigit x = false ∧ x ≠ '.') : numeral.Takes w r (String.ofList w) := by
  have hstop : ∀ x ∈ r.head?, isDigit x = false := fun x hx => (hr x hx).1
  cases h with
  | whole hw =>
    have hrun : Text.Run isDigit w r := ⟨hw.2, hstop⟩
    have hno : pointed.Refuses (w ++ r) := by
      refine pointed_refuses hrun ?_
      rintro f rfl
      exact absurd rfl (hr '.' rfl).2
    exact hno.firstOf_takes (digits_takes hw.1 hrun).firstOf
  | pointed hw hf => exact (pointed_takes hw hf.1 ⟨hf.2, hstop⟩).firstOf

/-- **The longest numeral is read.** -/
theorem numeral_takesAtLeast {w : Text} (h : IsNumeral w) (r : Text) :
    numeral.TakesAtLeast w r := by
  cases h with
  | whole hw =>
    obtain ⟨x, r', rfl, hrun⟩ := Text.exists_run_append hw.2 r
    rcases numeral_run hrun with ⟨f, r'', rfl, -, ht⟩ | ⟨-, ht⟩ | ⟨hnil, -⟩
    · exact ⟨x ++ '.' :: f, r'', _, by simp, by simpa using ht⟩
    · exact ⟨x, r', _, rfl, ht⟩
    · exact absurd (List.append_eq_nil_iff.1 hnil).1 hw.1
  | @pointed w f hw hf =>
    obtain ⟨x, r', rfl, hrun⟩ := Text.exists_run_append hf.2 r
    have hne : f ++ x ≠ [] := fun he => hf.1 (List.append_eq_nil_iff.1 he).1
    exact ⟨x, r', _, rfl, by rw [List.append_assoc]; exact (pointed_takes hw hne hrun).firstOf⟩

end Parser

end Backtrack
