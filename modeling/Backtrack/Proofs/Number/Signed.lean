import Backtrack.Proofs.Number
import Mathlib.Data.Nat.Digits.Defs

/-!
# Whole numbers are read to their end

A whole number takes all digits there are, and only then it is decided whether there is a value for
them: if they name too large a number, none of them is read.  The bounds are those of 64 bits with
and without a sign, and with a sign they are not the same in both directions, so the sign has to be
known before the bounds are looked at.

* `Numeral.decimalValue` — the number that digits name in positional notation, as a sum of multiples
  of powers of ten.  The parsers get it digit by digit, from the front (`value_eq_decimalValue`);
* `Numeral.leadingSign?`, `Numeral.afterSign` — a text cut behind the sign with which it begins, if
  it begins with one;
* `signed_apply` — what an optional sign changes, whatever stands behind it;
* `posint_apply`, `integer_apply` — what is read, as a function of the unread text;
* `whole_numbers_exact` — these together with the way back from a number to its text.
-/

set_option autoImplicit false

namespace Backtrack

namespace Numeral

/-! ## Digits -/

/-- The number that digits name, the last of which counts ones. -/
def decimalValue (w : Text) : Nat := Nat.ofDigits 10 (w.reverse.map digitValue)

/-- **Reading digits from the front adds up their places.** -/
theorem value_eq_decimalValue (w : Text) : value w = decimalValue w := by
  rw [value, decimalValue, List.foldl_eq_foldr_reverse]
  induction w.reverse with
  | nil => rfl
  | cons x w ih =>
    rw [List.foldr_cons, List.map_cons, Nat.ofDigits_cons, ih]
    exact Nat.add_comm ..

theorem isDigit_of_charIsDigit {x : Char} (h : x.isDigit = true) : isDigit x = true := by
  have hall : ∀ k < 10, isDigit (Char.ofNat (48 + k)) = true := by decide
  have hx : 48 ≤ x.toNat ∧ x.toNat ≤ 57 := by
    simp only [Char.isDigit, Bool.and_eq_true, decide_eq_true_eq] at h
    exact h
  obtain ⟨k, hk⟩ := Nat.exists_eq_add_of_le hx.1
  have hdigit := hall k (by omega)
  rwa [← hk, Char.ofNat_toNat] at hdigit

theorem isDigits_ofNat (n : Nat) : IsDigits (ofNat n) := by
  refine ⟨Nat.toDigits_ne_nil, fun x hx => ?_⟩
  exact isDigit_of_charIsDigit (Nat.isDigit_of_mem_toDigits (by decide) (by decide) hx)

/-- The digits of a number name the number. -/
theorem decimalValue_ofNat (n : Nat) : decimalValue (ofNat n) = n := by
  rw [← value_eq_decimalValue]
  exact Nat.ofDigitChars_toDigits (by decide) (by decide)

/-! ## Signs -/

/-- The sign with which a text begins. -/
def leadingSign? : Text → Option Char
  | [] => none
  | x :: _ => if x = '+' ∨ x = '-' then some x else none

/-- What follows the sign with which a text begins, or all of it. -/
def afterSign (s : Text) : Text := s.drop (leadingSign? s).toList.length

theorem leadingSign?_append_afterSign (s : Text) : (leadingSign? s).toList ++ afterSign s = s := by
  cases s with
  | nil => rfl
  | cons x s =>
    rw [afterSign, leadingSign?]
    split <;> rfl

/-- The number that digits name behind a sign. -/
def signedValue (sign : Option Char) (w : Text) : Int :=
  if sign = some '-' then -(decimalValue w : Int) else decimalValue w

/-- The sign that is written in front of the digits of a number. -/
def signOf (i : Int) : Option Char := if i < 0 then some '-' else none

theorem ofInt_eq (i : Int) : ofInt i = (signOf i).toList ++ ofNat i.natAbs := by
  rw [ofInt, signOf]
  split <;> rfl

theorem signedValue_signOf (i : Int) : signedValue (signOf i) (ofNat i.natAbs) = i := by
  rw [signedValue, signOf, decimalValue_ofNat]
  by_cases hi : i < 0
  · rw [if_pos hi, if_pos rfl]
    omega
  · rw [if_neg hi, if_neg (by simp)]
    omega

/-- The decimal text of a number is cut behind the sign that was written. -/
theorem leadingSign?_ofInt (i : Int) (r : Text) :
    leadingSign? (ofInt i ++ r) = signOf i ∧
      afterSign (ofInt i ++ r) = ofNat i.natAbs ++ r := by
  have hsign : leadingSign? (ofInt i ++ r) = signOf i := by
    rw [ofInt, signOf]
    by_cases hi : i < 0
    · rw [if_pos hi, if_pos hi]
      rfl
    · rw [if_neg hi, if_neg hi]
      -- a digit is not a sign
      obtain ⟨hne, hall⟩ := isDigits_ofNat i.natAbs
      cases hw : ofNat i.natAbs with
      | nil => exact absurd hw hne
      | cons x w =>
        have hx : isDigit x = true := hall x (by rw [hw]; exact List.mem_cons_self)
        refine if_neg ?_
        rintro (rfl | rfl) <;> simp [isDigit, digitChars] at hx
  refine ⟨hsign, ?_⟩
  rw [afterSign, hsign, ofInt_eq, List.append_assoc]
  exact List.drop_left

/-- The place behind the sign that stands at a place, or the place itself. -/
def behindSign (c : Cursor) : Cursor :=
  c.moveTo (leadingSign? c.rest).toList (afterSign c.rest)

end Numeral

theorem Cursor.moveTo_moveTo (c : Cursor) (w u r t : Text) :
    (c.moveTo w r).moveTo u t = c.moveTo (w ++ u) t := by
  rw [moveTo, moveTo, moveTo, List.reverse_append, List.append_assoc]

/-- A run is what the characters of its class in front make up. -/
theorem Text.Run.takeWhile_eq {f : Char → Bool} {w r : Text} (h : Run f w r) :
    (w ++ r).takeWhile f = w ∧ (w ++ r).dropWhile f = r := by
  have hr : r.takeWhile f = [] ∧ r.dropWhile f = r := by
    cases r with
    | nil => exact ⟨rfl, rfl⟩
    | cons x r =>
      have hx : f x = false := h.stop x rfl
      simp [hx]
  rw [List.takeWhile_append_of_pos h.all, List.dropWhile_append_of_pos h.all, hr.1, hr.2,
    List.append_nil]
  exact ⟨rfl, rfl⟩

namespace Parser

open Numeral

variable {α : Type}

/-- Where a parser that succeeds under a condition is filtered, the condition has a second part. -/
theorem filter_of_eq_ite {f : α → Bool} {p : Parser α} {c d : Cursor} {v : α} {P : Prop}
    [Decidable P] (h : p c = if P then .ok v d else .error .mismatch) :
    filter f p c = if P ∧ f v = true then .ok v d else .error .mismatch := by
  rw [filter, filterMap, h]
  by_cases hP : P
  · cases hv : f v <;> simp [hP, hv]
  · simp [hP]

/-! ## Behind a sign -/

theorem optional_sign_apply (c : Cursor) :
    optional (oneOf ['+', '-']) c = .ok (leadingSign? c.rest) (behindSign c) := by
  obtain ⟨past, s⟩ := c
  cases s with
  | nil => rfl
  | cons x s =>
    rw [behindSign, afterSign, optional, oneOf, satisfy]
    by_cases hx : x = '+' ∨ x = '-'
    · simp [leadingSign?, hx, Cursor.moveTo]
    · simp [leadingSign?, hx, Cursor.moveTo]

/-- **Behind a sign a parser does what it would do there anyway**, and a minus changes its value. -/
theorem signed_apply (negate : α → α) (p : Parser α) (c : Cursor) :
    signed negate p c = (p (behindSign c)).map fun v =>
      if leadingSign? c.rest = some '-' then negate v else v := by
  rw [signed, bind_apply, optional_sign_apply]
  simp only
  rw [bind_apply]
  cases p (behindSign c) <;> rfl

/-! ## Whole numbers -/

theorem magnitude_apply (c : Cursor) :
    let d := c.rest.takeWhile isDigit
    magnitude c =
      if d ≠ [] then .ok (decimalValue d) (c.moveTo d (c.rest.dropWhile isDigit))
      else .error .mismatch := by
  intro d
  have hrun : Text.Run isDigit d (c.rest.dropWhile isDigit) := Text.run_takeWhile isDigit c.rest
  have hrest : d ++ c.rest.dropWhile isDigit = c.rest := List.takeWhile_append_dropWhile
  by_cases hd : d = []
  · have hstop := hrun.stop
    rw [hd, List.nil_append] at hrest
    rw [hrest] at hstop
    rw [if_neg (not_not.2 hd)]
    exact (digits_refuses hstop).map _ c.past
  · have hread := ((digits_takes hd hrun).map fun s => value s.toList) c.past
    rw [hrest, String.toList_ofList, value_eq_decimalValue] at hread
    rw [if_pos hd]
    exact hread

/-- **A number without a sign is read if it fits.** -/
theorem posint_apply (c : Cursor) :
    let d := c.rest.takeWhile isDigit
    posint c =
      if d ≠ [] ∧ decimalValue d ≤ 2 ^ 64 - 1 then
        .ok (decimalValue d) (c.moveTo d (c.rest.dropWhile isDigit))
      else .error .mismatch := by
  intro d
  have hread : magnitude c =
      if d ≠ [] then .ok (decimalValue d) (c.moveTo d (c.rest.dropWhile isDigit))
      else .error .mismatch := magnitude_apply c
  rw [posint, filter_of_eq_ite hread]
  refine if_congr (and_congr_right fun _ => ?_) rfl rfl
  rw [decide_eq_true_eq]
  omega

/-- **A number with a sign is read if it fits.**  The sign is applied before the bounds are looked
at, and they reach further down than up. -/
theorem integer_apply (c : Cursor) :
    let sign := leadingSign? c.rest
    let d := (afterSign c.rest).takeWhile isDigit
    let i := signedValue sign d
    integer c =
      if d ≠ [] ∧ -2 ^ 63 ≤ i ∧ i ≤ 2 ^ 63 - 1 then
        .ok i (c.moveTo (sign.toList ++ d) ((afterSign c.rest).dropWhile isDigit))
      else .error .mismatch := by
  intro sign d i
  have hread : signed Int.neg (Parser.map Int.ofNat magnitude) c =
      if d ≠ [] then
        .ok i (c.moveTo (sign.toList ++ d) ((afterSign c.rest).dropWhile isDigit))
      else .error .mismatch := by
    rw [signed_apply, Parser.map, magnitude_apply, behindSign, Cursor.moveTo_moveTo]
    show ((if d ≠ [] then _ else _ : Outcome Nat).map Int.ofNat).map _ = _
    by_cases hd : d ≠ []
    · rw [if_pos hd, if_pos hd]
      rfl
    · rw [if_neg hd, if_neg hd]
      rfl
  rw [integer, filter_of_eq_ite hread]
  refine if_congr (and_congr_right fun _ => ?_) rfl rfl
  rw [decide_eq_true_eq]
  omega

/-- A number without a sign is read back from its digits. -/
theorem posint_takes_ofNat (n : UInt64) {r : Text} (hr : ∀ x ∈ r.head?, isDigit x = false) :
    posint.Takes (ofNat n.toNat) r n.toNat := by
  intro past
  have hdigits := isDigits_ofNat n.toNat
  have hrun : Text.Run isDigit (ofNat n.toNat) r := ⟨hdigits.2, hr⟩
  have hlt := n.toNat_lt
  rw [posint_apply]
  simp only [hrun.takeWhile_eq, decimalValue_ofNat]
  rw [if_pos ⟨hdigits.1, by omega⟩]
  rfl

/-- A number with a sign is read back from its digits and the sign in front of them. -/
theorem integer_takes_ofInt (i : Int64) {r : Text} (hr : ∀ x ∈ r.head?, isDigit x = false) :
    integer.Takes (ofInt i.toInt) r i.toInt := by
  intro past
  have hdigits := isDigits_ofNat i.toInt.natAbs
  have hrun : Text.Run isDigit (ofNat i.toInt.natAbs) r := ⟨hdigits.2, hr⟩
  have hle := i.le_toInt
  have hlt := i.toInt_lt
  obtain ⟨hsign, hafter⟩ := leadingSign?_ofInt i.toInt r
  rw [integer_apply]
  simp only [hsign, hafter, hrun.takeWhile_eq, signedValue_signOf]
  rw [if_pos ⟨hdigits.1, hle, by omega⟩, ofInt_eq]
  rfl

/-- **Whole numbers are read exactly.**  Behind an optional sign, if the type has one, all digits that
stand there are read, and they are read exactly if there are any and the number that they name lies
between the bounds of the type; otherwise there is a mismatch.  So a number is read back from its
decimal text in front of anything but a digit. -/
theorem whole_numbers_exact :
    (∀ c : Cursor,
      let d := c.rest.takeWhile isDigit
      posint c =
        if d ≠ [] ∧ decimalValue d ≤ 2 ^ 64 - 1 then
          .ok (decimalValue d) (c.moveTo d (c.rest.dropWhile isDigit))
        else .error .mismatch) ∧
    (∀ c : Cursor,
      let sign := leadingSign? c.rest
      let d := (afterSign c.rest).takeWhile isDigit
      let i := signedValue sign d
      sign.toList ++ afterSign c.rest = c.rest ∧
      integer c =
        if d ≠ [] ∧ -2 ^ 63 ≤ i ∧ i ≤ 2 ^ 63 - 1 then
          .ok i (c.moveTo (sign.toList ++ d) ((afterSign c.rest).dropWhile isDigit))
        else .error .mismatch) ∧
    (∀ (n : UInt64) (r : Text), (∀ x ∈ r.head?, isDigit x = false) →
      posint.Takes (ofNat n.toNat) r n.toNat) ∧
    ∀ (i : Int64) (r : Text), (∀ x ∈ r.head?, isDigit x = false) →
      integer.Takes (ofInt i.toInt) r i.toInt :=
  ⟨posint_apply, fun c => ⟨leadingSign?_append_afterSign c.rest, integer_apply c⟩,
    fun n _ => posint_takes_ofNat n, fun i _ => integer_takes_ofInt i⟩

/-- The least number with a sign is read back, also with zeros in front, and the next one is not
read, although its digits without the last one would be. -/
theorem whole_numbers_exact_least :
    (∀ x ∈ (['.'] : Text).head?, isDigit x = false) ∧
    integer.Takes "-9223372036854775808".toList ['.'] (-9223372036854775808) ∧
    integer (.start "-0009223372036854775808.".toList) =
      .ok (-9223372036854775808) ⟨"8085774586302733229000-".toList, ['.']⟩ ∧
    integer (.start "-9223372036854775809.".toList) = .error .mismatch ∧
    posint (.start "18446744073709551616".toList) = .error .mismatch := by
  have hstop : ∀ x ∈ (['.'] : Text).head?, isDigit x = false := by
    simp [isDigit, digitChars]
  have htext : ofInt Int64.minValue.toInt = "-9223372036854775808".toList := by decide +kernel
  obtain ⟨hposint, hinteger, -, hback⟩ := whole_numbers_exact
  have hread := hback Int64.minValue ['.'] hstop
  rw [htext] at hread
  exact ⟨hstop, hread, (hinteger _).2.trans (by decide +kernel),
    (hinteger _).2.trans (by decide +kernel), (hposint _).trans (by decide +kernel)⟩

end Parser

end Backtrack
