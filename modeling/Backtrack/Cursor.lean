import Backtrack.Text

/-!
# Cursors

A cursor is a place in a text, and since a parser looks only forward from where it stands, the
natural form of it is the text torn in two: what has been read, and what is still to read.  The
part read is kept in reverse, so that moving over a character takes one step.

The tear can only be between two characters, so every cursor is at a character boundary and none
lies beyond the end; `dropBytes?_position` says that cutting the whole text at the cursor's byte
offset gives back exactly the unread part.
-/

set_option autoImplicit false

namespace Backtrack

/-- A place in a text. -/
structure Cursor where
  /-- The characters already read, the last one first. -/
  past : Text
  /-- The characters still to read. -/
  rest : Text
deriving DecidableEq, Repr

namespace Cursor

/-- The beginning of a text. -/
def start (source : Text) : Cursor := ⟨[], source⟩

/-- The whole text in which the cursor stands. -/
def source (c : Cursor) : Text := c.past.reverse ++ c.rest

/-- The byte offset at which the cursor stands. -/
def position (c : Cursor) : Nat := Text.byteSize c.past

/-- The character at the cursor; there is none at the end of the text. -/
def value? (c : Cursor) : Option Char := c.rest.head?

/-- Whether nothing is left to read. -/
def atEnd (c : Cursor) : Bool := c.rest.isEmpty

/-- The cursor after one more character, which stays where it is at the end of the text. -/
def next (c : Cursor) : Cursor :=
  match c.rest with
  | [] => c
  | x :: r => ⟨x :: c.past, r⟩

/-- The cursor after a beginning `read` of the unread text, when `rest` is what follows it. -/
def moveTo (c : Cursor) (read rest : Text) : Cursor := ⟨read.reverse ++ c.past, rest⟩

/-- Move forward from between `past` and `rest` over as many whole characters as `n` bytes hold. -/
def advanceFrom (past : Text) : Text → Nat → Cursor
  | [], _ => ⟨past, []⟩
  | x :: r, n =>
    if x.utf8Size ≤ n then advanceFrom (x :: past) r (n - x.utf8Size) else ⟨past, x :: r⟩

/-- The cursor `n` bytes further on, or the end of the text if fewer are left.  An offset inside a
character is rounded down to the character's beginning. -/
def advance (c : Cursor) (n : Nat) : Cursor := advanceFrom c.past c.rest n

@[simp] theorem source_start (s : Text) : (start s).source = s := by simp [start, source]

@[simp] theorem position_start (s : Text) : (start s).position = 0 := rfl

@[simp] theorem rest_start (s : Text) : (start s).rest = s := rfl

/-- **The unread text is the source cut at the cursor's position.** -/
theorem dropBytes?_position (c : Cursor) : Text.dropBytes? c.position c.source = some c.rest := by
  have h := Text.dropBytes?_byteSize_append c.past.reverse c.rest
  rwa [Text.byteSize_reverse] at h

/-- A cursor never stands beyond the end of its text. -/
theorem position_le_byteSize_source (c : Cursor) : c.position ≤ Text.byteSize c.source := by
  simp [position, source]

@[simp] theorem source_next (c : Cursor) : c.next.source = c.source := by
  unfold next
  split
  · rfl
  · rename_i h; simp [source, h]

/-- Moving one character forward shortens what is left, unless nothing is left. -/
theorem length_rest_next {c : Cursor} (h : c.atEnd = false) :
    c.next.rest.length < c.rest.length := by
  unfold next
  cases hr : c.rest with
  | nil => simp [atEnd, hr] at h
  | cons x r => simp

@[simp] theorem source_advanceFrom (past rest : Text) (n : Nat) :
    (advanceFrom past rest n).source = past.reverse ++ rest := by
  induction rest generalizing past n with
  | nil => simp [advanceFrom, source]
  | cons x r ih =>
    unfold advanceFrom
    split
    · simp [ih]
    · simp [source]

/-- Moving forward stays in the same text. -/
@[simp] theorem source_advance (c : Cursor) (n : Nat) : (c.advance n).source = c.source :=
  source_advanceFrom ..

theorem advanceFrom_byteSize (past w r : Text) :
    advanceFrom past (w ++ r) (Text.byteSize w) = ⟨w.reverse ++ past, r⟩ := by
  induction w generalizing past with
  | nil =>
    cases r with
    | nil => rfl
    | cons x r =>
      have hx : ¬ x.utf8Size ≤ 0 := Nat.not_le.2 x.utf8Size_pos
      rw [List.nil_append, advanceFrom, Text.byteSize_nil, if_neg hx]
      rfl
  | cons x w ih =>
    rw [List.cons_append, advanceFrom, Text.byteSize_cons, if_pos (Nat.le_add_right ..),
      Nat.add_sub_cancel_left, ih, List.reverse_cons, List.append_assoc]
    rfl

/-- **Moving over a beginning is advancing by its bytes.** -/
theorem advance_byteSize {c : Cursor} {w r : Text} (h : c.rest = w ++ r) :
    c.advance (Text.byteSize w) = c.moveTo w r := by
  rw [advance, h, advanceFrom_byteSize]
  rfl

end Cursor

end Backtrack
