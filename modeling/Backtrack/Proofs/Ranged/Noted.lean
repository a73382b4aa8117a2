import Backtrack.Proofs.Forward

/-!
# The ranges noted in a value

A ranged value can stand anywhere inside another one: in a list, as an operand of a tree, under a
further range.  `Value.Notes` finds it wherever it is.  The functions by which grammars change their
values take values apart, put others together and turn them into text, but they make up no range:
what is noted in the result was noted in what they were given (`Function.notes_of_apply` and its
companions), apart from a constant, which notes what it notes.

Where a range should lie is said twice.  `Range.Passed` says it in terms of places, and that is what
is carried through a parse.  `Range.Inside` says it in terms of offsets and of the source, and that
follows (`Passed.inside`).
-/

set_option autoImplicit false

namespace Backtrack

/-! ## Ranges between two places -/

namespace Range

variable {c c' d d' : Cursor} {r : Range}

/-- The range lies between two places that are passed on the way from `c` to `d`. -/
def Passed (c d : Cursor) (r : Range) : Prop :=
  ∃ a b, c.Reaches a ∧ a.Reaches b ∧ b.Reaches d ∧ r = .between a b

/-- The range lies between the positions of `c` and `d`, and it covers a text of the source. -/
structure Inside (c d : Cursor) (r : Range) : Prop where
  /-- It does not begin in front of `c`. -/
  position_le_start : c.position ≤ r.start
  /-- Its ends are in order. -/
  start_le_stop : r.start ≤ r.stop
  /-- It does not end behind `d`. -/
  stop_le_position : r.stop ≤ d.position
  /-- Neither of its ends falls inside a character, and the text between them is its own. -/
  source_eq : ∃ before after, c.source = before ++ (r.text c.source ++ after) ∧
    Text.byteSize before = r.start ∧ Text.byteSize (before ++ r.text c.source) = r.stop

theorem Passed.mono (h : r.Passed c d) (hc : c'.Reaches c) (hd : d.Reaches d') :
    r.Passed c' d' := by
  obtain ⟨a, b, hca, hab, hbd, rfl⟩ := h
  exact ⟨a, b, hc.trans hca, hab, hbd.trans hd, rfl⟩

theorem passed_between (h : c.Reaches d) : (between c d).Passed c d :=
  ⟨c, d, .refl c, h, .refl d, rfl⟩

/-- **A range between places that are passed lies inside.** -/
theorem Passed.inside (h : r.Passed c d) : r.Inside c d := by
  obtain ⟨a, b, hca, hab, hbd, rfl⟩ := h
  have hsource : a.source = c.source := hca.ahead.source_eq
  obtain ⟨w, hslice, hrest⟩ := hab.ahead.slice_eq
  have htext : (between a b).text c.source = w := by
    rw [text, ← hsource]
    exact congrArg (·.getD []) hslice
  refine ⟨hca.ahead.position_le, hab.ahead.position_le, hbd.ahead.position_le,
    a.past.reverse, b.rest, ?_, Text.byteSize_reverse _, ?_⟩
  · rw [htext, ← hsource, ← hrest, Cursor.source]
  · -- the two parts make up all that has been read at `b`
    have hb : a.past.reverse ++ w = b.past.reverse := by
      have hab' : b.source = a.source := hab.ahead.source_eq
      rw [Cursor.source, Cursor.source, hrest, ← List.append_assoc] at hab'
      exact (List.append_cancel_right hab').symm
    rw [htext, hb]
    exact Text.byteSize_reverse _

end Range

/-! ## Operands -/

namespace Tree

variable {α β : Type}

theorem mem_operands_map {f : α → β} {t : Tree α} {v : β} (h : v ∈ (t.map f).operands) :
    ∃ u ∈ t.operands, v = f u := by
  induction t with
  | leaf u => exact ⟨u, List.mem_singleton_self u, List.mem_singleton.1 h⟩
  | node op l r ihl ihr =>
    rcases List.mem_append.1 h with h | h
    · obtain ⟨u, hu, hv⟩ := ihl h
      exact ⟨u, List.mem_append_left _ hu, hv⟩
    · obtain ⟨u, hu, hv⟩ := ihr h
      exact ⟨u, List.mem_append_right _ hu, hv⟩

theorem mem_operands_flatten {t : Tree (Tree α)} {v : α} (h : v ∈ t.flatten.operands) :
    ∃ u ∈ t.operands, v ∈ u.operands := by
  induction t with
  | leaf u => exact ⟨u, List.mem_singleton_self u, h⟩
  | node op l r ihl ihr =>
    rcases List.mem_append.1 h with h | h
    · obtain ⟨u, hu, hv⟩ := ihl h
      exact ⟨u, List.mem_append_left _ hu, hv⟩
    · obtain ⟨u, hu, hv⟩ := ihr h
      exact ⟨u, List.mem_append_right _ hu, hv⟩

end Tree

/-! ## Values -/

namespace Value

/-- The range is noted in the value, however deep inside. -/
inductive Notes : Value → Range → Prop
  | here (v : Value) (r : Range) : Notes (.ranged v r) r
  | ranged {v : Value} {r : Range} (h : Notes v r) (s : Range) : Notes (.ranged v s) r
  | list {v : Value} {vs : List Value} {r : Range} (hv : v ∈ vs) (h : Notes v r) :
      Notes (.list vs) r
  | tuple {v : Value} {vs : List Value} {r : Range} (hv : v ∈ vs) (h : Notes v r) :
      Notes (.tuple vs) r
  | present {v : Value} {r : Range} (h : Notes v r) : Notes (.present v) r
  | tree {v : Value} {t : Tree Value} {r : Range} (hv : v ∈ t.operands) (h : Notes v r) :
      Notes (.tree t) r

/-- No range is noted in the value. -/
def Plain (v : Value) : Prop := ∀ r, ¬ v.Notes r

variable {v w : Value} {r : Range}

theorem plain_char (x : Char) : (char x).Plain := by
  intro r h
  cases h

theorem plain_str (s : String) : (str s).Plain := by
  intro r h
  cases h

theorem plain_int (i : Int) : (int i).Plain := by
  intro r h
  cases h

theorem plain_float (x : Float) : (float x).Plain := by
  intro r h
  cases h

theorem notes_of_list {vs : List Value} (h : (list vs).Notes r) : ∃ v ∈ vs, v.Notes r := by
  cases h with
  | list hv h => exact ⟨_, hv, h⟩

theorem plain_tree {α : Type} {f : α → Value} (hf : ∀ u, (f u).Plain) (t : Tree α) :
    (tree (t.map f)).Plain := by
  intro r h
  cases h with
  | tree hv h =>
    obtain ⟨u, -, rfl⟩ := Tree.mem_operands_map hv
    exact hf u r h

theorem plain_strs (ss : List String) : (list (ss.map str)).Plain := by
  intro r h
  obtain ⟨v, hv, h⟩ := notes_of_list h
  obtain ⟨s, -, rfl⟩ := List.mem_map.1 hv
  exact plain_str s r h

/-- A value is the tree that it is, or a leaf of it. -/
theorem notes_of_toTree (hw : w ∈ v.toTree.operands) (h : w.Notes r) : v.Notes r := by
  cases v with
  | tree t => exact .tree hw h
  | _ =>
    obtain rfl := List.mem_singleton.1 hw
    exact h

theorem notes_of_negate (h : v.negate.Notes r) : v.Notes r := by
  cases v with
  | int i => exact absurd h (plain_int _ r)
  | float x => exact absurd h (plain_float _ r)
  | _ => exact h

/-! ## Functions of values -/

/-- The value that is given with a function. -/
def Function.literals : Function → List Value
  | const v => [v]
  | _ => []

/-- **A function notes no range of its own**, if none is noted in a value that is given with it. -/
theorem Function.notes_of_apply {f : Function} (hf : ∀ w ∈ f.literals, w.Plain)
    (h : (f.apply v).Notes r) : v.Notes r := by
  cases f with
  | text | length | join => cases h
  | const w => exact absurd h (hf w (List.mem_singleton_self w) r)
  | first =>
    rw [Function.apply.eq_def] at h
    dsimp only at h
    split at h
    · exact .tuple List.mem_cons_self h
    · exact h
  | second =>
    rw [Function.apply.eq_def] at h
    dsimp only at h
    split at h
    · exact .tuple (List.mem_cons_of_mem _ List.mem_cons_self) h
    · exact h
  | flatten =>
    rw [Function.apply.eq_def] at h
    dsimp only at h
    split at h
    · cases h with
      | tree hw h =>
        obtain ⟨t, ht, hw⟩ := Tree.mem_operands_flatten hw
        obtain ⟨u, hu, rfl⟩ := Tree.mem_operands_map ht
        exact .tree hu (notes_of_toTree hw h)
    · exact h
  | operatorCount | polish | evaluate =>
    rw [Function.apply.eq_def] at h
    dsimp only at h
    split at h
    · cases h
    · exact h
  | asTuple =>
    rw [Function.apply.eq_def] at h
    dsimp only at h
    split at h
    · cases h with
      | tuple hw h => exact .list hw h
    · exact h

/-- **A selection notes no range of its own.** -/
theorem Selection.notes_of_eq_some {f : Selection} (hf : f.select? v = some w) (h : w.Notes r) :
    v.Notes r := by
  cases f with
  | byte =>
    obtain ⟨n, -, rfl⟩ := Option.map_eq_some_iff.1 hf
    cases h
  | digit =>
    rw [Selection.select?.eq_def] at hf
    dsimp only at hf
    split at hf
    · split at hf
      · cases hf
        cases h
      · cases hf
    · cases hf
  | even | below =>
    rw [Selection.select?.eq_def] at hf
    dsimp only at hf
    split at hf
    · split at hf
      · cases hf
        cases h
      · cases hf
    · cases hf
  | head =>
    rw [Selection.select?.eq_def] at hf
    dsimp only at hf
    split at hf
    · cases hf
      exact .list List.mem_cons_self h
    · cases hf
  | longerEqual | equal =>
    rw [Selection.select?.eq_def] at hf
    dsimp only at hf
    split at hf
    · cases hf
      exact h
    · cases hf
  | nonEmptyText =>
    rw [Selection.select?.eq_def] at hf
    dsimp only at hf
    split at hf
    · cases hf
    · cases hf
      cases h

end Value

end Backtrack
