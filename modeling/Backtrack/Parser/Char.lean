import Backtrack.Parser.Basic

/-!
# Reading characters

The parsers that look at the text itself.  `satisfy` reads one character of a class, and `text`
reads a given string, all of it or nothing.  Both report a mismatch for the wrong characters and
for a text that is too short alike.
-/

set_option autoImplicit false

namespace Backtrack

namespace Parser

/-- Read one character of the class `f`. -/
def satisfy (f : Char → Bool) : Parser Char := fun c =>
  match c.rest with
  | [] => .error .mismatch
  | x :: r => if f x then .ok x ⟨x :: c.past, r⟩ else .error .mismatch

/-- Read any one character. -/
def anyChar : Parser Char := satisfy fun _ => true

/-- Read the character `x`. -/
def char (x : Char) : Parser Char := satisfy (· == x)

/-- Read one of the characters of `s`. -/
def oneOf (s : Text) : Parser Char := satisfy fun x => s.contains x

/-- Read one character that is not in `s`. -/
def noneOf (s : Text) : Parser Char := satisfy fun x => !s.contains x

/-- What follows `w` in a text that begins with it. -/
def stripBeginning? : (w s : Text) → Option Text
  | [], s => some s
  | _ :: _, [] => none
  | x :: w, y :: s => if x = y then stripBeginning? w s else none

/-- Read exactly the string `s`. -/
def text (s : String) : Parser String := fun c =>
  match stripBeginning? s.toList c.rest with
  | some r => .ok s (c.moveTo s.toList r)
  | none => .error .mismatch

/-- Join the characters that a parser yields into a string. -/
def joined (p : Parser (List Char)) : Parser String := Parser.map String.ofList p

/-- **A text begins with `w` exactly if something follows `w` in it.** -/
theorem stripBeginning?_eq_some_iff {w s r : Text} : stripBeginning? w s = some r ↔ s = w ++ r := by
  induction w generalizing s with
  | nil => simp [stripBeginning?, eq_comm]
  | cons x w ih =>
    cases s with
    | nil => simp [stripBeginning?]
    | cons y s =>
      unfold stripBeginning?
      split
      · rename_i h; subst h; simp [ih]
      · rename_i h; simp [Ne.symm h]

/-- **A string is read by counting its bytes**: where the unread text begins with it, as many bytes
as it has are cut off and passed over. -/
theorem text_eq_advance (s : String) (c : Cursor) :
    text s c =
      if s.toList <+: c.rest then
        match Text.takeBytes? (Text.byteSize s.toList) c.rest with
        | some w => .ok (String.ofList w) (c.advance (Text.byteSize s.toList))
        | none => .error .mismatch
      else .error .mismatch := by
  rw [text]
  cases h : stripBeginning? s.toList c.rest with
  | some r =>
    have hrest := stripBeginning?_eq_some_iff.1 h
    rw [Cursor.advance_byteSize hrest, hrest, if_pos (List.prefix_append _ r),
      Text.takeBytes?_byteSize_append]
    simp only [String.ofList_toList]
  | none =>
    have hno : ¬ s.toList <+: c.rest := by
      rintro ⟨r, hr⟩
      simp [stripBeginning?_eq_some_iff.2 hr.symm] at h
    rw [if_neg hno]

end Parser

end Backtrack
