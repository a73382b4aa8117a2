import Backtrack.Proofs.Encoding
import Backtrack.Proofs.Locality
import Backtrack.Proofs.Operator.LongestMatch

/-!
# The text that a range covers

The offsets of a range are any two numbers.  They cover a text if they are in order and if both are
boundaries of the source, and then the text is that slice of the source; in all other cases the text
is empty, and that is all that can happen.

* `Text.IsBoundary` — the offset lies between two characters or at an end.  It is what the standard
  library calls a valid position of a string, which is decided by looking at single bytes; for a list
  of characters it means that some beginning has as many bytes (`isBoundary_iff`).
* `Text.slice?_eq_some_iff` — where a slice lies.
* `Text.slice?_append` — two slices with nothing between them make one.  For three ranges, two given
  ones and the one between them, this gives `text_outer`.
-/

set_option autoImplicit false

namespace Backtrack

/-! ## Boundaries and slices -/

namespace Text

variable {s w x : Text} {i j k n : Nat}

/-- The offset is at a boundary of the text: it does not lie beyond the end and does not fall inside
a character. -/
def IsBoundary (s : Text) (n : Nat) : Prop := String.Pos.Raw.IsValid (String.ofList s) ⟨n⟩

instance (s : Text) (n : Nat) : Decidable (s.IsBoundary n) :=
  inferInstanceAs (Decidable (String.Pos.Raw.IsValid (String.ofList s) ⟨n⟩))

theorem utf8ByteSize_ofList (s : Text) : (String.ofList s).utf8ByteSize = byteSize s := by
  rw [← String.size_toByteArray, String.toByteArray_ofList, List.utf8Encode, List.size_toByteArray]
  exact length_bytes s

theorem isBoundary_iff : s.IsBoundary n ↔ ∃ u v, s = u ++ v ∧ byteSize u = n := by
  rw [IsBoundary, String.Pos.Raw.isValid_iff_exists_append]
  constructor
  · rintro ⟨u, v, hs, hn⟩
    refine ⟨u.toList, v.toList, ?_, ?_⟩
    · rw [← String.toList_append, ← hs, String.toList_ofList]
    · rw [← utf8ByteSize_ofList, String.ofList_toList, ← String.byteIdx_rawEndPos, ← hn]
  · rintro ⟨u, v, rfl, rfl⟩
    refine ⟨String.ofList u, String.ofList v, String.ofList_append, ?_⟩
    rw [String.Pos.Raw.ext_iff, String.byteIdx_rawEndPos, utf8ByteSize_ofList]

theorem IsBoundary.le_byteSize (h : s.IsBoundary n) : n ≤ byteSize s := by
  obtain ⟨u, v, rfl, rfl⟩ := isBoundary_iff.1 h
  rw [byteSize_append]
  exact Nat.le_add_right ..

theorem eq_append_of_takeBytes? (h : takeBytes? n s = some w) :
    ∃ v, s = w ++ v ∧ byteSize w = n := by
  induction s generalizing n w with
  | nil =>
    cases n with
    | zero =>
      cases h
      exact ⟨[], rfl, rfl⟩
    | succ n => cases h
  | cons c s ih =>
    cases n with
    | zero =>
      cases h
      exact ⟨c :: s, rfl, rfl⟩
    | succ n =>
      rw [takeBytes?] at h
      split at h
      · rename_i hle
        obtain ⟨w', hw', rfl⟩ := Option.map_eq_some_iff.1 h
        obtain ⟨v, rfl, hsize⟩ := ih hw'
        refine ⟨v, rfl, ?_⟩
        rw [byteSize_cons, hsize]
        omega
      · cases h

/-- **A slice lies where its offsets say.** -/
theorem slice?_eq_some_iff : slice? i j s = some w ↔
    ∃ u v, s = u ++ (w ++ v) ∧ byteSize u = i ∧ byteSize (u ++ w) = j := by
  constructor
  · intro h
    rw [slice?] at h
    split at h
    · rename_i hle
      obtain ⟨r, hr, hw⟩ := Option.bind_eq_some_iff.1 h
      obtain ⟨u, rfl, hu⟩ := eq_append_of_dropBytes? hr
      obtain ⟨v, rfl, hsize⟩ := eq_append_of_takeBytes? hw
      refine ⟨u, v, rfl, hu, ?_⟩
      rw [byteSize_append, hu, hsize]
      omega
    · cases h
  · rintro ⟨u, v, rfl, rfl, rfl⟩
    rw [slice?, byteSize_append, if_pos (Nat.le_add_right ..), dropBytes?_byteSize_append,
      Option.bind_some, Nat.add_sub_cancel_left, takeBytes?_byteSize_append]

/-- **Between two boundaries in order there is a slice**, and between any others there is none. -/
theorem exists_slice?_iff :
    (∃ w, slice? i j s = some w) ↔ i ≤ j ∧ s.IsBoundary i ∧ s.IsBoundary j := by
  constructor
  · rintro ⟨w, h⟩
    obtain ⟨u, v, rfl, rfl, rfl⟩ := slice?_eq_some_iff.1 h
    refine ⟨by simp, isBoundary_iff.2 ⟨u, w ++ v, rfl, rfl⟩, ?_⟩
    exact isBoundary_iff.2 ⟨u ++ w, v, by simp, rfl⟩
  · rintro ⟨hle, hi, hj⟩
    obtain ⟨u, v, rfl, rfl⟩ := isBoundary_iff.1 hi
    obtain ⟨u', v', hs, rfl⟩ := isBoundary_iff.1 hj
    rcases List.append_eq_append_iff.1 hs with ⟨w, rfl, rfl⟩ | ⟨w, rfl, rfl⟩
    · exact ⟨w, slice?_eq_some_iff.2 ⟨u, v', rfl, rfl, rfl⟩⟩
    · have hw : w = [] := by
        rw [byteSize_append] at hle
        exact byteSize_eq_zero.1 (by omega)
      subst hw
      exact ⟨[], slice?_eq_some_iff.2 ⟨u', v, by simp, by simp, by simp⟩⟩

/-- **Two slices with nothing between them make one.** -/
theorem slice?_append (hw : slice? i j s = some w) (hx : slice? j k s = some x) :
    slice? i k s = some (w ++ x) := by
  obtain ⟨u, v, hs, rfl, rfl⟩ := slice?_eq_some_iff.1 hw
  obtain ⟨u', v', hs', hu', rfl⟩ := slice?_eq_some_iff.1 hx
  -- both slices are cut at the same place
  have hcut : u' = u ++ w :=
    eq_of_prefix_of_byteSize_eq ⟨x ++ v', hs'.symm⟩ ⟨v, by rw [hs, List.append_assoc]⟩ hu'
  subst hcut
  exact slice?_eq_some_iff.2 ⟨u, v', by simp [hs'], rfl, by simp⟩

end Text

namespace Range

variable {source : Text} {r a b : Range}

/-! ## Ranges that cover a text -/

/-- The offsets of the range are in order, and both are boundaries of the source. -/
structure Fits (r : Range) (source : Text) : Prop where
  /-- The offsets are in order. -/
  start_le_stop : r.start ≤ r.stop
  /-- They do not lie beyond the end. -/
  stop_le_byteSize : r.stop ≤ Text.byteSize source
  /-- The range does not begin inside a character. -/
  start_boundary : source.IsBoundary r.start
  /-- The range does not end inside a character. -/
  stop_boundary : source.IsBoundary r.stop

theorem fits_iff : r.Fits source ↔ ∃ w, Text.slice? r.start r.stop source = some w := by
  rw [Text.exists_slice?_iff]
  exact ⟨fun h => ⟨h.start_le_stop, h.start_boundary, h.stop_boundary⟩,
    fun ⟨hle, hstart, hstop⟩ => ⟨hle, hstop.le_byteSize, hstart, hstop⟩⟩

theorem Fits.slice?_eq (h : r.Fits source) :
    Text.slice? r.start r.stop source = some (r.text source) := by
  obtain ⟨w, hw⟩ := fits_iff.1 h
  rw [text, hw]
  rfl

theorem text_eq_nil (h : ¬ r.Fits source) : r.text source = [] := by
  rw [text]
  cases hslice : Text.slice? r.start r.stop source with
  | none => rfl
  | some w => exact absurd (fits_iff.2 ⟨w, hslice⟩) h

/-- **From the beginning of one range to the end of another** there are the texts of the two and what
lies between them. -/
theorem text_outer (ha : a.Fits source) (hb : b.Fits source) (h : a.stop ≤ b.start) :
    (a.outer b).text source = a.text source ++ (a.inner b).text source ++ b.text source := by
  have hinner : (a.inner b).Fits source :=
    ⟨h, Nat.le_trans hb.start_le_stop hb.stop_le_byteSize, ha.stop_boundary, hb.start_boundary⟩
  have hslice := Text.slice?_append (Text.slice?_append ha.slice?_eq hinner.slice?_eq) hb.slice?_eq
  rw [text]
  exact congrArg (·.getD []) hslice

/-- **A range covers a slice of the source or nothing.**  If its offsets are in order, do not lie
beyond the end and do not fall inside a character, its text is that slice of the source, which has
exactly as many bytes as the range is long; in all other cases its text is empty.  A range is empty
exactly if its length is zero.  And if one such range does not end behind the beginning of another,
the range from the beginning of the first to the end of the second covers the texts of both and the
text between them, and the lengths add up. -/
theorem text_slice_or_nil (source : Text) (a b : Range) :
    ((a.Fits source ∧ ∃ before after, source = before ++ (a.text source ++ after) ∧
        Text.byteSize before = a.start ∧ Text.byteSize (a.text source) = a.length ∧
        (a.text source).bytes = source.bytes.extract a.start a.stop) ∨
      ¬ a.Fits source ∧ a.text source = []) ∧
    (a.isEmpty = true ↔ a.length = 0) ∧
    (a.Fits source → b.Fits source → a.stop ≤ b.start →
      (a.outer b).text source = a.text source ++ (a.inner b).text source ++ b.text source ∧
      (a.outer b).length = a.length + (a.inner b).length + b.length) := by
  refine ⟨?_, ?_, fun ha hb h => ⟨text_outer ha hb h, ?_⟩⟩
  · by_cases h : a.Fits source
    · obtain ⟨before, after, hsource, hbefore, hstop⟩ := Text.slice?_eq_some_iff.1 h.slice?_eq
      refine .inl ⟨h, before, after, hsource, hbefore, ?_, ?_⟩
      · rw [Text.byteSize_append] at hstop
        rw [length]
        omega
      · have hbytes := Text.bytes_infix before (a.text source) after
        rw [hbefore, hstop, ← hsource] at hbytes
        exact hbytes.symm
    · exact .inr ⟨h, text_eq_nil h⟩
  · rw [isEmpty, length, decide_eq_true_iff]
    omega
  · have hle := ha.start_le_stop
    have hle' := hb.start_le_stop
    simp only [length, outer, inner]
    omega

/-- Two ranges in a text with characters of one, two and three bytes, a range that ends inside a
character, and one whose offsets are out of order. -/
theorem text_slice_or_nil_accents :
    let source := "aé日b".toList
    (Fits ⟨1, 3⟩ source ∧ Fits ⟨6, 7⟩ source ∧
      text ⟨1, 7⟩ source = text ⟨1, 3⟩ source ++ text ⟨3, 6⟩ source ++ text ⟨6, 7⟩ source ∧
      length ⟨1, 7⟩ = length ⟨1, 3⟩ + length ⟨3, 6⟩ + length ⟨6, 7⟩) ∧
    (¬ Fits ⟨1, 4⟩ source ∧ text ⟨1, 4⟩ source = []) ∧
    ¬ Fits ⟨3, 1⟩ source ∧ text ⟨3, 1⟩ source = [] := by
  intro source
  have ha : Fits ⟨1, 3⟩ source := ⟨by decide, by decide, by decide, by decide⟩
  have hb : Fits ⟨6, 7⟩ source := ⟨by decide, by decide, by decide, by decide⟩
  have hinside : ¬ Fits ⟨1, 4⟩ source := fun h => absurd h.stop_boundary (by decide)
  have hreversed : ¬ Fits ⟨3, 1⟩ source := fun h => absurd h.start_le_stop (by decide)
  refine ⟨⟨ha, hb, (text_slice_or_nil source ⟨1, 3⟩ ⟨6, 7⟩).2.2 ha hb (by decide)⟩, ?_, ?_⟩
  · rcases (text_slice_or_nil source ⟨1, 4⟩ ⟨6, 7⟩).1 with ⟨h, -⟩ | h
    · exact absurd h hinside
    · exact h
  · rcases (text_slice_or_nil source ⟨3, 1⟩ ⟨6, 7⟩).1 with ⟨h, -⟩ | h
    · exact absurd h hreversed
    · exact h

end Range

end Backtrack
