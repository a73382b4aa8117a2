import Backtrack.Text

/-!
# Texts as bytes

Offsets count bytes, and a text is a list of characters.  `Text.bytes` is the encoding in which the
offsets count, and there are two things to know about it.

* Cutting a text at the offset of a character cuts its encoding at that offset (`bytes_infix`), so a
  slice of a text is a slice of its bytes.
* The encoding keeps the order: texts compare character by character as their encodings compare byte
  by byte (`bytes_lt_of_lt`).  A code of several bytes holds six bits in each byte but the first
  (`continued`), so that codes of one length compare like numbers, and between two lengths the first
  byte decides (`OrderedCode.ite`).
-/

set_option autoImplicit false

namespace Backtrack

namespace Text

/-- The UTF-8 encoding of a text. -/
def bytes (s : Text) : List UInt8 := s.flatMap String.utf8EncodeChar

@[simp] theorem bytes_nil : bytes [] = [] := rfl

@[simp] theorem bytes_cons (x : Char) (s : Text) :
    bytes (x :: s) = String.utf8EncodeChar x ++ bytes s := List.flatMap_cons

@[simp] theorem bytes_append (s t : Text) : bytes (s ++ t) = bytes s ++ bytes t :=
  List.flatMap_append

@[simp] theorem length_bytes (s : Text) : (bytes s).length = byteSize s := by
  induction s with
  | nil => rfl
  | cons x s ih => simp [ih]

/-- The bytes of a text inside another one are found by counting. -/
theorem bytes_infix (u w v : Text) :
    (u ++ (w ++ v)).bytes.extract (byteSize u) (byteSize (u ++ w)) = w.bytes := by
  rw [bytes_append, bytes_append, List.extract_eq_take_drop, List.drop_left' (length_bytes u),
    byteSize_append, Nat.add_sub_cancel_left]
  exact List.take_left' (length_bytes w)

/-! ## Order -/

/-- A way to write the numbers below `bound` as bytes.  The first byte lies between `low` and `high`,
and a smaller number has a code that is less, whatever follows the two codes. -/
structure OrderedCode (code : Nat → List UInt8) (bound low high : Nat) : Prop where
  /-- Where the first byte lies. -/
  head : ∀ {n : Nat}, n < bound → ∃ k w, low ≤ k ∧ k < high ∧ code n = UInt8.ofNat k :: w
  /-- The order of the codes is that of the numbers. -/
  lt : ∀ {m n : Nat}, m < n → n < bound → ∀ u v, code m ++ u < code n ++ v

/-- The first byte of a code: some bits of a number, behind a mark. -/
def leading (count mark n : Nat) : List UInt8 := [UInt8.ofNat (n % count + mark)]

/-- A code with six more bits in a byte behind it. -/
def continued (code : Nat → List UInt8) (n : Nat) : List UInt8 :=
  code (n / 64) ++ [UInt8.ofNat (n % 64 + 0x80)]

theorem cons_lt_cons_of_lt {m n : Nat} (h : m < n) (hn : n < 256) (u v : List UInt8) :
    UInt8.ofNat m :: u < UInt8.ofNat n :: v := by
  refine List.cons_lt_cons_iff.2 (.inl ?_)
  rw [UInt8.lt_iff_toNat_lt, UInt8.toNat_ofNat', UInt8.toNat_ofNat']
  omega

theorem orderedCode_leading {count mark : Nat} (h : mark + count ≤ 256) :
    OrderedCode (leading count mark) count mark (mark + count) := by
  refine ⟨fun {n} hn => ?_, fun {m n} hlt hn u v => ?_⟩
  · have hmod := Nat.mod_lt n (Nat.zero_lt_of_lt hn)
    exact ⟨n % count + mark, [], by omega, by omega, rfl⟩
  · rw [leading, leading, Nat.mod_eq_of_lt hn, Nat.mod_eq_of_lt (Nat.lt_trans hlt hn)]
    exact cons_lt_cons_of_lt (by omega) (by omega) u v

namespace OrderedCode

variable {code short long : Nat → List UInt8} {bound last low middle middle' high : Nat}

/-- The bits in front decide, and if they are the same, those behind. -/
theorem continued (h : OrderedCode code bound low high) :
    OrderedCode (continued code) (64 * bound) low high := by
  refine ⟨fun {n} hn => ?_, fun {m n} hlt hn u v => ?_⟩
  · obtain ⟨k, w, hlow, hhigh, hcode⟩ := h.head (n := n / 64) (by omega)
    exact ⟨k, w ++ _, hlow, hhigh, by rw [Text.continued, hcode]; rfl⟩
  · rw [Text.continued, Text.continued, List.append_assoc, List.append_assoc]
    rcases Nat.lt_or_ge (m / 64) (n / 64) with hdiv | hdiv
    · exact h.lt hdiv (by omega) _ _
    · have heq : m / 64 = n / 64 := by omega
      rw [heq]
      exact List.append_left_lt (cons_lt_cons_of_lt (by omega) (by omega) u v)

/-- Between codes of two lengths the first byte decides. -/
theorem ite (hshort : OrderedCode short (last + 1) low middle)
    (hlong : OrderedCode long bound middle' high) (hmiddle : middle ≤ middle') (hhigh : high ≤ 256) :
    OrderedCode (fun n => if n ≤ last then short n else long n) bound low high := by
  refine ⟨fun {n} hn => ?_, fun {m n} hlt hn u v => ?_⟩
  · obtain ⟨k, w, hk, hk', hcode⟩ := hlong.head hn
    by_cases hlast : n ≤ last
    · obtain ⟨j, x, hj, hj', hcode'⟩ := hshort.head (n := n) (by omega)
      exact ⟨j, x, hj, by omega, by rw [if_pos hlast, hcode']⟩
    · obtain ⟨j, -, hj, hj', -⟩ := hshort.head (n := 0) (by omega)
      exact ⟨k, w, by omega, hk', by rw [if_neg hlast, hcode]⟩
  · by_cases hm : m ≤ last
    · by_cases hn' : n ≤ last
      · simpa only [if_pos hm, if_pos hn'] using hshort.lt hlt (by omega) u v
      · obtain ⟨j, x, -, hj', hcode⟩ := hshort.head (n := m) (by omega)
        obtain ⟨k, w, hk, hk', hcode'⟩ := hlong.head hn
        simp only [if_pos hm, if_neg hn', hcode, hcode']
        exact cons_lt_cons_of_lt (by omega) (by omega) _ _
    · have hn' : ¬ n ≤ last := by omega
      simpa only [if_neg hm, if_neg hn'] using hlong.lt hlt hn u v

end OrderedCode

/-- The code of a character by its number: one byte, or a byte that begins with as many ones as the
code has bytes. -/
def scalarCode (n : Nat) : List UInt8 :=
  if n ≤ 0x7F then leading 0x80 0 n
  else if n ≤ 0x7FF then continued (leading 0x20 0xC0) n
  else if n ≤ 0xFFFF then continued (continued (leading 0x10 0xE0)) n
  else continued (continued (continued (leading 0x08 0xF0))) n

theorem orderedCode_scalarCode : OrderedCode scalarCode 0x200000 0 0xF8 := by
  have one : OrderedCode (leading 0x80 0) 0x80 0 0x80 := orderedCode_leading (by omega)
  have two : OrderedCode (leading 0x20 0xC0) 0x20 0xC0 0xE0 := orderedCode_leading (by omega)
  have three : OrderedCode (leading 0x10 0xE0) 0x10 0xE0 0xF0 := orderedCode_leading (by omega)
  have four : OrderedCode (leading 0x08 0xF0) 0x08 0xF0 0xF8 := orderedCode_leading (by omega)
  have long := three.continued.continued.ite four.continued.continued.continued (by omega) (by omega)
  exact one.ite (two.continued.ite long (by omega) (by omega)) (by omega) (by omega)

theorem utf8EncodeChar_eq (x : Char) : String.utf8EncodeChar x = scalarCode x.toNat := by
  rw [String.utf8EncodeChar, scalarCode, Char.toNat]
  simp only [continued, leading, Nat.div_div_eq_div_mul, Nat.add_zero]
  split
  · rw [Nat.mod_eq_of_lt (by omega)]
  · rfl

theorem utf8EncodeChar_append_lt {x y : Char} (h : x < y) (u v : List UInt8) :
    String.utf8EncodeChar x ++ u < String.utf8EncodeChar y ++ v := by
  have hy : y.toNat < 0x200000 := by
    have hvalid := y.valid
    rw [UInt32.isValidChar, Nat.isValidChar] at hvalid
    rw [Char.toNat]
    omega
  rw [utf8EncodeChar_eq, utf8EncodeChar_eq]
  exact orderedCode_scalarCode.lt h hy u v

/-- **The encodings of texts are in the order of the texts.** -/
theorem bytes_lt_of_lt {s t : Text} (h : s < t) : s.bytes < t.bytes := by
  induction h with
  | @nil y t =>
    have hne : bytes (y :: t) ≠ [] := by simp [String.utf8EncodeChar_ne_nil]
    obtain ⟨b, bs, hcons⟩ := List.exists_cons_of_ne_nil hne
    rw [hcons]
    exact List.nil_lt_cons b bs
  | rel h =>
    rw [bytes_cons, bytes_cons]
    exact utf8EncodeChar_append_lt h _ _
  | cons _ ih =>
    rw [bytes_cons, bytes_cons]
    exact List.append_left_lt ih

end Text

end Backtrack
