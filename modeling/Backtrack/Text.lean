/-!
# Text and its byte offsets

A text is a list of characters, and a place in it is named by the number of bytes that its UTF-8
encoding takes up to there.  Between those two views of the same thing there is one mismatch, and
it is the reason for this file: most numbers are not places.  An offset can fall inside a
character, or beyond the end, and then there is nothing to cut.

* `Text.byteSize` is the length of the encoding;
* `Text.takeBytes?` and `Text.dropBytes?` cut at an offset, and refuse one that is not a place;
* `Text.slice?` cuts out what lies between two offsets, and refuses a pair that is out of order;
* `Text.trim` removes blank characters at both ends, where blank means the Unicode property
  `White_Space` and not the four characters that parsers skip between tokens.
-/

set_option autoImplicit false

namespace Backtrack

/-- A text, as the characters it is made of. -/
abbrev Text : Type := List Char

namespace Text

/-! ## Sizes and cuts -/

/-- The number of bytes in the UTF-8 encoding of a text. -/
def byteSize : Text → Nat
  | [] => 0
  | c :: s => c.utf8Size + byteSize s

/-- The characters that make up exactly the first `n` bytes, if the `n`-th byte ends one. -/
def takeBytes? : Nat → Text → Option Text
  | 0, _ => some []
  | _ + 1, [] => none
  | n + 1, c :: s =>
    if c.utf8Size ≤ n + 1 then (takeBytes? (n + 1 - c.utf8Size) s).map (c :: ·) else none

/-- What is left after exactly the first `n` bytes, if the `n`-th byte ends a character. -/
def dropBytes? : Nat → Text → Option Text
  | 0, s => some s
  | _ + 1, [] => none
  | n + 1, c :: s => if c.utf8Size ≤ n + 1 then dropBytes? (n + 1 - c.utf8Size) s else none

/-- The text from byte `start` to byte `stop`.  There is none if the offsets are out of order, if
one of them lies beyond the end, or if one of them falls inside a character. -/
def slice? (start stop : Nat) (s : Text) : Option Text :=
  if start ≤ stop then (dropBytes? start s).bind (takeBytes? (stop - start)) else none

@[simp] theorem byteSize_nil : byteSize [] = 0 := rfl

@[simp] theorem byteSize_cons (c : Char) (s : Text) :
    byteSize (c :: s) = c.utf8Size + byteSize s := rfl

@[simp] theorem byteSize_append (s t : Text) : byteSize (s ++ t) = byteSize s + byteSize t := by
  induction s with
  | nil => simp
  | cons c s ih => simp [ih, Nat.add_assoc]

@[simp] theorem byteSize_reverse (s : Text) : byteSize s.reverse = byteSize s := by
  induction s with
  | nil => rfl
  | cons c s ih => simp [ih, Nat.add_comm]

@[simp] theorem byteSize_eq_zero {s : Text} : byteSize s = 0 ↔ s = [] := by
  cases s with
  | nil => simp
  | cons c s =>
    have := c.utf8Size_pos
    simp only [byteSize_cons, reduceCtorEq, iff_false]
    omega

/-- **Dropping the bytes of a beginning leaves the rest.** -/
@[simp] theorem dropBytes?_byteSize_append (s t : Text) :
    dropBytes? (byteSize s) (s ++ t) = some t := by
  induction s with
  | nil => cases t <;> rfl
  | cons c s ih =>
    obtain ⟨n, hn⟩ : ∃ n, byteSize (c :: s) = n + 1 :=
      ⟨byteSize (c :: s) - 1, by have := c.utf8Size_pos; simp only [byteSize_cons]; omega⟩
    rw [hn, List.cons_append, dropBytes?, ← hn, byteSize_cons, if_pos (Nat.le_add_right ..),
      Nat.add_sub_cancel_left, ih]

/-- **Taking the bytes of a beginning gives the beginning.** -/
@[simp] theorem takeBytes?_byteSize_append (s t : Text) :
    takeBytes? (byteSize s) (s ++ t) = some s := by
  induction s with
  | nil => cases t <;> rfl
  | cons c s ih =>
    obtain ⟨n, hn⟩ : ∃ n, byteSize (c :: s) = n + 1 :=
      ⟨byteSize (c :: s) - 1, by have := c.utf8Size_pos; simp only [byteSize_cons]; omega⟩
    rw [hn, List.cons_append, takeBytes?, ← hn, byteSize_cons, if_pos (Nat.le_add_right ..),
      Nat.add_sub_cancel_left, ih, Option.map_some]

/-! ## Blank characters -/

/-- The Unicode property `White_Space`. -/
def isBlank (c : Char) : Bool :=
  let n := c.toNat
  (9 ≤ n && n ≤ 13) || n == 0x20 || n == 0x85 || n == 0xA0 || n == 0x1680 ||
    (0x2000 ≤ n && n ≤ 0x200A) || n == 0x2028 || n == 0x2029 || n == 0x202F || n == 0x205F ||
    n == 0x3000

/-- A text without the blank characters at its beginning. -/
def trimStart (s : Text) : Text := s.dropWhile isBlank

/-- A text without the blank characters at its end. -/
def trimEnd (s : Text) : Text := (s.reverse.dropWhile isBlank).reverse

/-- A text without the blank characters at either end. -/
def trim (s : Text) : Text := trimEnd (trimStart s)

end Text

end Backtrack
