import Backtrack.Proofs.Encoding
import Backtrack.Proofs.Number.Signed
import Backtrack.Proofs.Search
import Backtrack.Proofs.Shell.Resolution

/-!
# Runs of characters are read whole

A token is put together character by character, and the place moves on by the bytes of each.  What
comes of it is said here without the loop: the token is the longest beginning of the unread text
that consists of characters of its class, and the place has moved over exactly the bytes of it.

* `Text.LongestRun f s w` — `w` is the longest beginning of `s` made of characters of the class `f`;
* `Cursor.PassesRun f c w d` — from `c` to `d` that run is passed over.  It is the slice of the source
  between the two places, in characters and in bytes;
* `ReadsRun` and `ReadsRun1` — the parser passes over the run at every place and yields its text,
  and the second refuses an empty run.

Digits, words and what stands between quotation marks are such runs, and so are the gaps around a
parser.  Behind a gap there is no second one (`behindRun_behindRun`), and that is why gaps around
gaps change nothing.
-/

set_option autoImplicit false

namespace Backtrack

namespace Text

variable {f : Char → Bool} {w r : Text}

/-- The longest beginning of a text that is made of characters of the class `f`. -/
structure LongestRun (f : Char → Bool) (s w : Text) : Prop where
  /-- The text begins with it. -/
  isPrefix : w <+: s
  /-- It is made of characters of the class. -/
  all : ∀ x ∈ w, f x = true
  /-- No other such beginning has more characters. -/
  longest : ∀ u, u <+: s → (∀ x ∈ u, f x = true) → u.length ≤ w.length

/-- **A run that cannot be continued is the longest one.** -/
theorem Run.longestRun (h : Run f w r) : LongestRun f (w ++ r) w := by
  refine ⟨List.prefix_append w r, h.all, fun u hu hall => ?_⟩
  rcases List.prefix_or_prefix_of_prefix hu (List.prefix_append w r) with hle | ⟨t, rfl⟩
  · exact hle.length_le
  · cases t with
    | nil => simp
    | cons x t =>
      -- a longer beginning of the class would continue the run
      obtain ⟨r', rfl⟩ := (List.prefix_append_right_inj w).1 hu
      have hin : f x = true := hall x (by simp)
      have hout : f x = false := h.stop x rfl
      exact absurd (hin.symm.trans hout) (by decide)

end Text

/-! ## Passing over a run -/

namespace Cursor

/-- From `c` to `d` the longest run of characters of the class `f` is passed over, and it is `w`. -/
structure PassesRun (f : Char → Bool) (c : Cursor) (w : Text) (d : Cursor) : Prop where
  /-- It is the longest run with which the unread text begins. -/
  longest : Text.LongestRun f c.rest w
  /-- What follows it is left. -/
  rest_eq : c.rest = w ++ d.rest
  /-- Both are places in the same text. -/
  source_eq : d.source = c.source
  /-- It is the text between the two places. -/
  slice_eq : Text.slice? c.position d.position c.source = some w
  /-- Its bytes are the bytes between the two places. -/
  bytes_eq : w.bytes = c.source.bytes.extract c.position d.position

/-- The place behind the run of characters of the class `f` that begins at a place. -/
def behindRun (f : Char → Bool) (c : Cursor) : Cursor :=
  c.moveTo (c.rest.takeWhile f) (c.rest.dropWhile f)

theorem bytes_moveTo {c : Cursor} {w r : Text} (h : c.rest = w ++ r) :
    w.bytes = c.source.bytes.extract c.position (c.moveTo w r).position := by
  have hbytes := Text.bytes_infix c.past.reverse w r
  rw [Text.byteSize_append, Text.byteSize_reverse] at hbytes
  rw [source, h, position, position, moveTo, Text.byteSize_append, Text.byteSize_reverse,
    Nat.add_comm, hbytes]

theorem passesRun_behindRun (f : Char → Bool) (c : Cursor) :
    c.PassesRun f (c.rest.takeWhile f) (c.behindRun f) := by
  have hrest : c.rest = c.rest.takeWhile f ++ c.rest.dropWhile f :=
    List.takeWhile_append_dropWhile.symm
  have hreaches : c.Reaches (c.behindRun f) := ⟨_, hrest, rfl⟩
  have hlongest := (Text.run_takeWhile f c.rest).longestRun
  rw [← hrest] at hlongest
  exact ⟨hlongest, hrest, hreaches.ahead.source_eq, hreaches.slice?_eq hrest, bytes_moveTo hrest⟩

/-- **Behind a run there is no second one.** -/
theorem behindRun_behindRun (f : Char → Bool) (c : Cursor) :
    (c.behindRun f).behindRun f = c.behindRun f := by
  have hrun : Text.Run f [] (c.rest.dropWhile f) :=
    ⟨by simp, (Text.run_takeWhile f c.rest).stop⟩
  obtain ⟨htake, hdrop⟩ := hrun.takeWhile_eq
  rw [List.nil_append] at htake hdrop
  show (c.behindRun f).moveTo ((c.rest.dropWhile f).takeWhile f) ((c.rest.dropWhile f).dropWhile f) =
    c.behindRun f
  rw [htake, hdrop]
  rfl

end Cursor

namespace Parser

open Cursor

variable {α : Type}

/-! ## Reading a run -/

/-- At every place the parser reads the run of characters of the class `f` and yields its text. -/
def ReadsRun (f : Char → Bool) (p : Parser String) : Prop :=
  ∀ c, ∃ w d, c.PassesRun f w d ∧ p c = .ok (String.ofList w) d

/-- The same, but an empty run is a mismatch. -/
def ReadsRun1 (f : Char → Bool) (p : Parser String) : Prop :=
  ∀ c, ∃ w d, c.PassesRun f w d ∧
    p c = if w = [] then .error .mismatch else .ok (String.ofList w) d

theorem many_satisfy_eq_ok (f : Char → Bool) (c : Cursor) :
    many (satisfy f) c = .ok (c.rest.takeWhile f) (c.behindRun f) := by
  have h := many_satisfy_takes (Text.run_takeWhile f c.rest) c.past
  rwa [List.takeWhile_append_dropWhile] at h

theorem many1_satisfy_eq (f : Char → Bool) (c : Cursor) :
    many1 (satisfy f) c = if c.rest.takeWhile f = [] then .error .mismatch
      else .ok (c.rest.takeWhile f) (c.behindRun f) := by
  have hrun := Text.run_takeWhile f c.rest
  split
  · rename_i hnil
    have hrest : c.rest.dropWhile f = c.rest := by
      have h := List.takeWhile_append_dropWhile (p := f) (l := c.rest)
      rwa [hnil, List.nil_append] at h
    exact many1_satisfy_refuses (hrest ▸ hrun.stop) c.past
  · rename_i hne
    have h := many1_satisfy_takes hne hrun c.past
    rwa [List.takeWhile_append_dropWhile] at h

theorem readsRun_many (f : Char → Bool) : ReadsRun f (joined (many (satisfy f))) := by
  intro c
  refine ⟨_, _, passesRun_behindRun f c, ?_⟩
  show (many (satisfy f) c).map String.ofList = _
  rw [many_satisfy_eq_ok]
  rfl

theorem readsRun1_many1 (f : Char → Bool) : ReadsRun1 f (joined (many1 (satisfy f))) := by
  intro c
  refine ⟨_, _, passesRun_behindRun f c, ?_⟩
  show (many1 (satisfy f) c).map String.ofList = _
  rw [many1_satisfy_eq]
  split <;> rfl

/-! ## Tokens -/

theorem isDigit_eq_charIsDigit : Numeral.isDigit = Char.isDigit := by
  funext x
  rw [Bool.eq_iff_iff]
  refine ⟨fun h => ?_, Numeral.isDigit_of_charIsDigit⟩
  have hall : ∀ y ∈ Numeral.digitChars, y.isDigit = true := Text.forall_mem_of_all rfl
  exact hall x (List.contains_iff_mem.1 h)

theorem digits_readsRun1 : ReadsRun1 Char.isDigit digits :=
  isDigit_eq_charIsDigit ▸ readsRun1_many1 Numeral.isDigit

theorem char_eq (x : Char) (c : Cursor) :
    char x c = if c.value? = some x then .ok x c.next else .error .mismatch := by
  rcases c with ⟨past, rest⟩
  cases rest with
  | nil => rfl
  | cons y r =>
    by_cases h : y = x
    · subst h
      simp [char, satisfy, value?, next]
    · simp [char, satisfy, value?, h]

/-- **What stands between quotation marks is a run**: the longest text without such a mark behind the
one at the place, if another one follows it. -/
theorem quotedWord_eq (c : Cursor) : ∃ w d, c.next.PassesRun (fun x => x != '"') w d ∧
    Shell.quotedWord c = if c.value? = some '"' ∧ d.value? = some '"'
      then .ok (String.ofList w) d.next else .error .mismatch := by
  have hclass : noneOf ['"'] = satisfy fun x => x != '"' := by
    have hmark : (fun x => !List.contains ['"'] x) = fun x : Char => x != '"' := by
      funext x
      rw [List.contains_cons, List.contains_nil, Bool.or_false, bne]
    rw [noneOf, hmark]
  obtain ⟨w, d, hrun, hcontent⟩ := readsRun_many (fun x => x != '"') c.next
  rw [← hclass] at hcontent
  refine ⟨w, d, hrun, ?_⟩
  have hopen := char_eq '"' c
  have hclose := char_eq '"' d
  by_cases hc : c.value? = some '"'
  · rw [if_pos hc] at hopen
    have hinside : Shell.quotedWord c =
        Parser.bind (char '"') (fun _ => Parser.pure (String.ofList w)) d :=
      (bind_of_ok hopen).trans (bind_of_ok hcontent)
    by_cases hd : d.value? = some '"'
    · rw [if_pos hd] at hclose
      rw [if_pos ⟨hc, hd⟩]
      exact hinside.trans (bind_of_ok hclose)
    · rw [if_neg hd] at hclose
      rw [if_neg fun h => hd h.2]
      exact hinside.trans (bind_of_error hclose)
  · rw [if_neg hc] at hopen
    rw [if_neg fun h => hc h.1]
    exact bind_of_error hopen

/-! ## Gaps -/

theorem behindGap_behindGap (c : Cursor) : behindGap (behindGap c) = behindGap c :=
  behindRun_behindRun isWhite c

theorem bind_of_diverge {β : Type} {p : Parser α} {g : α → Parser β} {c : Cursor}
    (h : p c = .diverge) : Parser.bind p g c = .diverge := by
  rw [Parser.bind, h]

/-- The gap in front is passed over, then the parser runs, and then the gap behind it is passed
over. -/
theorem spaced_eq (p : Parser α) (c : Cursor) :
    spaced p c = match p (behindGap c) with
      | .ok v d => .ok v (behindGap d)
      | .error e => .error e
      | .diverge => .diverge := by
  cases h : p (behindGap c) with
  | ok v d => exact spaced_of_ok h
  | error e => exact spaced_of_error h
  | diverge => exact (bind_of_ok (many_white_eq_ok c)).trans (bind_of_diverge h)

/-- **Gaps around gaps change nothing**, whatever comes of the parser between them. -/
theorem spaced_spaced (p : Parser α) : spaced (spaced p) = spaced p := by
  funext c
  rw [spaced_eq, spaced_eq, spaced_eq, behindGap_behindGap]
  cases p (behindGap c) with
  | ok v d => simp only [behindGap_behindGap]
  | error e => rfl
  | diverge => rfl

theorem spaced_passesRun (p : Parser α) (c : Cursor) : ∃ gap d, c.PassesRun isWhite gap d ∧
    match p d with
    | .ok v e => ∃ gap' e', e.PassesRun isWhite gap' e' ∧ spaced p c = .ok v e'
    | .error e => spaced p c = .error e
    | .diverge => spaced p c = .diverge := by
  refine ⟨_, _, passesRun_behindRun isWhite c, ?_⟩
  rw [spaced_eq, show c.behindRun isWhite = behindGap c from rfl]
  cases p (behindGap c) with
  | ok v e => exact ⟨_, _, passesRun_behindRun isWhite e, rfl⟩
  | error e => rfl
  | diverge => rfl

/-- **Runs are read whole.**  A repetition of a character of a class reads the longest beginning of
the unread text that is made of such characters, and yields the very text, byte for byte, that lies
between the two places; a repetition of at least one does the same and refuses only an empty run.
Digits and words are such runs, and so is what stands between two quotation marks.  The gaps that
are passed over around a parser are such runs as well, whatever comes of the parser, so gaps around
gaps change nothing. -/
theorem runs_longest :
    (∀ f, ReadsRun f (joined (many (satisfy f)))) ∧
    (∀ f, ReadsRun1 f (joined (many1 (satisfy f)))) ∧
    ReadsRun1 Char.isDigit digits ∧
    ReadsRun1 (fun x => !Text.isBlank x) Shell.word ∧
    (∀ c : Cursor, ∃ w d, c.next.PassesRun (fun x => x != '"') w d ∧
      Shell.quotedWord c = if c.value? = some '"' ∧ d.value? = some '"'
        then .ok (String.ofList w) d.next else .error .mismatch) ∧
    ∀ {α : Type} (p : Parser α),
      (∀ c : Cursor, ∃ gap d, c.PassesRun isWhite gap d ∧
        match p d with
        | .ok v e => ∃ gap' e', e.PassesRun isWhite gap' e' ∧ spaced p c = .ok v e'
        | .error e => spaced p c = .error e
        | .diverge => spaced p c = .diverge) ∧
      spaced (spaced p) = spaced p :=
  ⟨readsRun_many, readsRun1_many1, digits_readsRun1, readsRun1_many1 _, quotedWord_eq,
    fun p => ⟨spaced_passesRun p, spaced_spaced p⟩⟩

/-- Characters of several bytes are read whole, and a blank that is not skipped between tokens ends
a word all the same. -/
example : Shell.word (.start "né日\u00a0x".toList) =
      .ok "né日" ⟨"日én".toList, "\u00a0x".toList⟩ ∧
    spaced Shell.word (.start "\u00a0x".toList) = .error .mismatch := by
  cbv

end Parser

end Backtrack
