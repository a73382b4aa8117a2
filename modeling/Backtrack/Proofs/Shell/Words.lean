import Backtrack.Proofs.Shell.RoundTrip

/-!
# The words of a line

Without quotation marks a line is made of words and of the blanks between them, and one would expect
the first word to be the path and the others to be the arguments.  There are two notions of a blank,
though.  A word ends at every character with the Unicode property `White_Space`, and what may stand
between two words is only one of the four characters that parsers skip.  A blank of the first kind
that is not of the second is a *barrier*: no word goes beyond it, and nothing skips it.

* `words` — the words of a text: what is left of it when it is split at every blank;
* `exists_writtenArguments` — a text without barriers is a row of written arguments, which are its
  words;
* `command_takes_words` — a line is read up to the first barrier in it;
* `ended_command_words` — so a line without a barrier runs its command on the words behind the path,
  and a line with one always fails: with a mismatch if the barrier stands in front of the path, and
  otherwise because of what is left, which begins with the barrier.
-/

set_option autoImplicit false

namespace Backtrack

namespace Shell

open Backtrack.Parser

/-! ## Words -/

/-- The words of a text: the longest pieces of it that have no blank in them. -/
def words (s : Text) : List String :=
  ((s.splitOnP Text.isBlank).filter fun w => !w.isEmpty).map String.ofList

/-- **A blank stands between words.**  All that has to be known about words follows from this. -/
theorem words_append_blank {x : Char} (hx : Text.isBlank x = true) (s t : Text) :
    words (s ++ x :: t) = words s ++ words t := by
  rw [words, List.splitOnP_append_cons s t hx, List.filter_append, List.map_append]
  rfl

theorem words_nil : words [] = [] := rfl

/-- What has no blank in it is a word. -/
theorem words_word {w : Text} (hne : w ≠ []) (hw : ∀ x ∈ w, Text.isBlank x = false) :
    words w = [String.ofList w] := by
  rw [words, List.splitOnP_eq_singleton hw]
  simp [hne]

theorem words_blank_append {gap : Text} (hgap : ∀ x ∈ gap, Text.isBlank x = true) (s : Text) :
    words (gap ++ s) = words s := by
  induction gap with
  | nil => rfl
  | cons x gap ih =>
    have hx := hgap x List.mem_cons_self
    rw [List.cons_append, ← List.nil_append (x :: (gap ++ s)), words_append_blank hx, words_nil,
      List.nil_append]
    exact ih fun y hy => hgap y (List.mem_cons_of_mem x hy)

/-- A word in front of a blank or of the end is the first one. -/
theorem words_word_append {w r : Text} (hne : w ≠ []) (hw : ∀ x ∈ w, Text.isBlank x = false)
    (hr : BlankAhead r) : words (w ++ r) = String.ofList w :: words r := by
  rcases r with _ | ⟨x, r⟩
  · rw [List.append_nil, words_word hne hw, words_nil]
  · have hx := hr x rfl
    have hfirst : words (x :: r) = words r := words_append_blank hx [] r
    rw [words_append_blank hx, words_word hne hw, hfirst]
    rfl

/-! ## Cutting a line into words -/

/-- Whether a character ends a word and is not skipped between words. -/
def isBarrier (x : Char) : Bool := Text.isBlank x && !isWhite x

/-- What is skipped and what ends a word are the same in a text without barriers. -/
theorem isWhite_of_isBlank {x : Char} (hx : isBarrier x = false) (hblank : Text.isBlank x = true) :
    isWhite x = true := by
  simpa [isBarrier, hblank] using hx

/-- A text without barriers is a gap, or a gap and a word are at its beginning. -/
theorem exists_gap_word {s : Text} (hplain : ∀ x ∈ s, isBarrier x = false) :
    IsGap s ∨ ∃ gap w r, s = gap ++ (w ++ r) ∧ IsGap gap ∧ w ≠ [] ∧
      (∀ x ∈ w, Text.isBlank x = false) ∧ BlankAhead r := by
  obtain ⟨gap, t, rfl, hgap⟩ := Text.exists_run isWhite s
  obtain ⟨w, r, rfl, hw⟩ := Text.exists_run (fun x => !Text.isBlank x) t
  by_cases hne : w = []
  · left
    subst hne
    -- what stands behind the gap would have to be blank and not to be skipped
    have hend : r = [] := by
      rcases r with _ | ⟨x, r⟩
      · rfl
      · have hblank : Text.isBlank x = true := by simpa using hw.stop x rfl
        have hwhite : isWhite x = true := isWhite_of_isBlank (hplain x (by simp)) hblank
        rw [hgap.stop x rfl] at hwhite
        cases hwhite
    rw [hend, List.append_nil, List.append_nil]
    exact hgap.all
  · exact .inr ⟨gap, w, r, rfl, hgap.all, hne, fun x hx => by simpa using hw.all x hx,
      fun x hx => by simpa using hw.stop x hx⟩

theorem words_eq_nil_of_isGap {gap : Text} (hgap : IsGap gap) : words gap = [] := by
  have h := words_blank_append (fun x hx => isBlank_of_isWhite (hgap x hx)) []
  rwa [List.append_nil, words_nil] at h

theorem words_gap_word_append {gap w r : Text} (hgap : IsGap gap) (hne : w ≠ [])
    (hw : ∀ x ∈ w, Text.isBlank x = false) (hr : BlankAhead r) :
    words (gap ++ (w ++ r)) = String.ofList w :: words r := by
  rw [words_blank_append (fun x hx => isBlank_of_isWhite (hgap x hx)), words_word_append hne hw hr]

/-- **A text that begins with a blank is its words, written as arguments**, and a gap at the end. -/
theorem exists_writtenArguments {s : Text} (hplain : ∀ x ∈ s, isBarrier x = false)
    (hquote : '"' ∉ s) (hblank : BlankAhead s) :
    ∃ t after, s = t ++ after ∧ WrittenArguments (words s) t ∧ IsGap after := by
  induction hlength : s.length using Nat.strongRecOn generalizing s with
  | ind k ih =>
  rcases exists_gap_word hplain with hgap | ⟨gap, w, r, rfl, hgap, hne, hw, hr⟩
  · exact ⟨[], s, rfl, by rw [words_eq_nil_of_isGap hgap]; exact .nil, hgap⟩
  have hgap_ne : gap ≠ [] := by
    rintro rfl
    obtain ⟨x, w', rfl⟩ := List.exists_cons_of_ne_nil hne
    cases (hblank x rfl).symm.trans (hw x List.mem_cons_self)
  have hlt : r.length < k := by
    have := List.length_pos_iff.2 hne
    rw [← hlength, List.length_append, List.length_append]
    omega
  have hplain_r : ∀ x ∈ r, isBarrier x = false := fun x hx => hplain x (by simp [hx])
  have hquote_r : '"' ∉ r := fun hx => hquote (by simp [hx])
  obtain ⟨t, after, rfl, ht, hafter⟩ := ih r.length hlt hplain_r hquote_r hr rfl
  have hwritten : Written (String.ofList w) w := by
    have hhead : w.head? ≠ some '"' := fun hx =>
      hquote (List.mem_append_right _ (List.mem_append_left _ (List.mem_of_mem_head? hx)))
    have hbare : Written (String.ofList w) (String.ofList w).toList :=
      .bare (by simpa using hne) (by simpa using hw) (by simpa using hhead)
    rwa [String.toList_ofList] at hbare
  refine ⟨gap ++ (w ++ t), after, by simp, ?_, hafter⟩
  rw [words_gap_word_append hgap hne hw hr]
  exact .cons hgap_ne hgap hwritten ht

/-- **A line without barriers is its first word and the others, written as arguments**, with gaps
around all of it. -/
theorem exists_line {line : Text} {path : String} {args : List String}
    (hplain : ∀ x ∈ line, isBarrier x = false) (hquote : '"' ∉ line)
    (hwords : words line = path :: args) :
    ∃ before written after, line = before ++ (path.toList ++ (written ++ after)) ∧
      IsGap before ∧ (∀ x ∈ path.toList, Text.isBlank x = false) ∧
      WrittenArguments args written ∧ IsGap after := by
  rcases exists_gap_word hplain with hgap | ⟨before, w, r, rfl, hgap, hne, hw, hr⟩
  · rw [words_eq_nil_of_isGap hgap] at hwords
    cases hwords
  rw [words_gap_word_append hgap hne hw hr, List.cons.injEq] at hwords
  obtain ⟨rfl, rfl⟩ := hwords
  have hplain_r : ∀ x ∈ r, isBarrier x = false := fun x hx => hplain x (by simp [hx])
  have hquote_r : '"' ∉ r := fun hx => hquote (by simp [hx])
  obtain ⟨written, after, rfl, hwritten, hafter⟩ := exists_writtenArguments hplain_r hquote_r hr
  rw [String.toList_ofList]
  exact ⟨before, written, after, rfl, hgap, hw, hwritten, hafter⟩

/-! ## Lines -/

variable {root target : Command} {line : Text} {path : String} {args : List String}

/-- The characters of a name stand in the path. -/
theorem mem_path_of_mem_name {name : String} (hname : name ∈ splitPath path) {x : Char}
    (hx : x ∈ name.toList) : x ∈ path.toList := by
  obtain ⟨first, names, hsplit, htext⟩ := exists_splitPath path
  rw [hsplit, List.mem_cons] at hname
  rw [htext, List.mem_append]
  rcases hname with rfl | hname
  · exact .inl hx
  · exact .inr (List.mem_flatMap.2 ⟨name, hname, List.mem_cons_of_mem '.' hx⟩)

/-- **A line is read up to its first barrier**, as the command at its first word with the other words
for arguments. -/
theorem command_takes_words {w r : Text} (hplain : ∀ x ∈ w, isBarrier x = false)
    (hquote : '"' ∉ w) (hwords : words w = path :: args)
    (hpath : ∀ name ∈ splitPath path, name ≠ "")
    (hfind : root.find? (splitPath path) = some target)
    (hr : ∀ x ∈ r.head?, isBarrier x = true) :
    (command root).Takes w r (execute root target args) := by
  obtain ⟨before, written, after, rfl, hbefore, hblank, hargs, hafter⟩ :=
    exists_line hplain hquote hwords
  have hstop : ∀ x ∈ r.head?, Text.isBlank x = true ∧ isWhite x = false :=
    fun x hx => by simpa [isBarrier] using hr x hx
  have hends : EndsArguments (after ++ r) :=
    endsArguments_of_isGap hafter (fun x hx => (hstop x hx).1) fun x hx => (hstop x hx).2
  have hnames : commandPath.Takes path.toList (written ++ (after ++ r)) (splitPath path) :=
    commandPath_takes
      (fun name hname => ⟨hpath name hname, fun x hx => hblank x (mem_path_of_mem_name hname hx)⟩)
      (hargs.blankAhead hends.blank)
  have hrun : (runAt root (splitPath path)).Takes written (after ++ r)
      (execute root target args) := by
    rw [runAt, hfind]
    exact (arguments_takes_of_ends hargs hends).map _
  have hgap : Text.Run isWhite before (path.toList ++ written ++ (after ++ r)) := by
    simpa using run_isWhite_of_takes commandPath_refuses hbefore hnames
  have hline : (command root).Takes (before ++ (path.toList ++ written ++ after)) r
      (execute root target args) :=
    Takes.spaced hgap (hnames.bind hrun) ⟨hafter, fun x hx => (hstop x hx).2⟩
  simpa using hline

/-- Nothing is read of a line with a barrier in front of its path. -/
theorem command_refuses_barrier {gap r : Text} (hgap : IsGap gap)
    (hr : ∀ x ∈ r.head?, isBarrier x = true) : (command root).Refuses (gap ++ r) := by
  have hstop : ∀ x ∈ r.head?, Text.isBlank x = true ∧ isWhite x = false :=
    fun x hx => by simpa [isBarrier] using hr x hx
  have hpath : commandPath.Refuses r := commandPath_refuses fun x hx => (hstop x hx).1
  exact Refuses.spaced ⟨hgap, fun x hx => (hstop x hx).2⟩ (hpath.bind _)

/-- The words in front of a barrier are the first ones of the line. -/
theorem isGap_or_words_eq {w r : Text} {x : Char} (hplain : ∀ y ∈ w, isBarrier y = false)
    (hx : isBarrier x = true) (hwords : words (w ++ x :: r) = path :: args) :
    IsGap w ∨ ¬ IsGap w ∧ ∃ front, words w = path :: front := by
  have hblank : Text.isBlank x = true := (Bool.and_eq_true_iff.1 hx).1
  rcases exists_gap_word hplain with hgap | ⟨gap, v, t, rfl, hgap, hne, hv, ht⟩
  · exact .inl hgap
  · right
    rw [words_append_blank hblank, words_gap_word_append hgap hne hv ht, List.cons_append,
      List.cons.injEq] at hwords
    refine ⟨fun hall => ?_, words t, by rw [words_gap_word_append hgap hne hv ht, hwords.1]⟩
    obtain ⟨y, v', rfl⟩ := List.exists_cons_of_ne_nil hne
    have hwhite : isWhite y = true := hall y (by simp)
    cases (isBlank_of_isWhite hwhite).symm.trans (hv y List.mem_cons_self)

/-- **The words of a line are its command and the arguments, up to a barrier.**  Let a line have no
quotation mark in it, and let its first word be a path to a command whose names are not empty.  If
every blank of the line is one that is skipped between words, then the line runs that command with
its other words as arguments, and nothing is left.  Otherwise the line fails at its first blank that
is not: with a mismatch if only a gap stands in front of it, and otherwise because it and what
follows it are left. -/
theorem ended_command_words (hquote : '"' ∉ line) (hwords : words line = path :: args)
    (hpath : ∀ name ∈ splitPath path, name ≠ "")
    (hfind : root.find? (splitPath path) = some target) :
    ((∀ x ∈ line, isBarrier x = false) →
      (ended (command root)).run line = .ok (execute root target args) ⟨line.reverse, []⟩) ∧
    ∀ w x r, line = w ++ x :: r → (∀ y ∈ w, isBarrier y = false) → isBarrier x = true →
      (ended (command root)).run line =
        if IsGap w then .error .mismatch else .error (.expectEnd (String.ofList (x :: r))) := by
  constructor
  · intro hplain
    have htakes := command_takes_words (r := []) hplain hquote hwords hpath hfind (by simp)
    simpa [Parser.run, Cursor.start] using htakes.ended []
  · rintro w x r rfl hplain hx
    have hr : ∀ y ∈ (x :: r).head?, isBarrier y = true := by simpa using hx
    rcases isGap_or_words_eq hplain hx hwords with hgap | ⟨hgap, front, hfront⟩
    · rw [if_pos hgap]
      exact (command_refuses_barrier hgap hr).ended []
    · rw [if_neg hgap]
      have hquote_w : '"' ∉ w := fun h => hquote (List.mem_append_left _ h)
      have htakes := command_takes_words hplain hquote_w hfront hpath hfind hr
      exact htakes.ended_error (by simp) []

/-- Four lines of the standard shell: blanks of all four kinds between the words, and then a vertical
tab in front of the path, between two words and at the end. -/
theorem ended_command_words_verticalTab :
    let line := " \techo  a\r\nb ".toList
    let front := " \x0becho a b".toList
    let between := "echo a\x0bb".toList
    let behind := "echo a b \x0b".toList
    (words line = ["echo", "a", "b"] ∧
      ∃ d, (ended (command standard)).run line = .ok "a b" d) ∧
    (words front = ["echo", "a", "b"] ∧
      (ended (command standard)).run front = .error .mismatch) ∧
    (words between = ["echo", "a", "b"] ∧
      (ended (command standard)).run between = .error (.expectEnd "\x0bb")) ∧
    words behind = ["echo", "a", "b"] ∧
      (ended (command standard)).run behind = .error (.expectEnd "\x0b") := by
  intro line front between behind
  have hpath : ∀ name ∈ splitPath "echo", name ≠ "" := by decide
  have hfind : standard.find? (splitPath "echo") =
      some ((Command.new .echo).describe "Echo text.") := rfl
  have hwords : words line = ["echo", "a", "b"] := by decide
  have hfront : words front = ["echo", "a", "b"] := by decide
  have hbetween : words between = ["echo", "a", "b"] := by decide
  have hbehind : words behind = ["echo", "a", "b"] := by decide
  refine ⟨⟨hwords, _, (ended_command_words (by decide) hwords hpath hfind).1
      (Text.forall_mem_of_all (by decide))⟩, ⟨hfront, ?_⟩, ⟨hbetween, ?_⟩, hbehind, ?_⟩
  · exact (ended_command_words (by decide) hfront hpath hfind).2 [' '] '\x0b' "echo a b".toList rfl
      (Text.forall_mem_of_all (by decide)) (by decide)
  · exact (ended_command_words (by decide) hbetween hpath hfind).2 "echo a".toList '\x0b' ['b'] rfl
      (Text.forall_mem_of_all (by decide)) (by decide)
  · exact (ended_command_words (by decide) hbehind hpath hfind).2 "echo a b ".toList '\x0b' [] rfl
      (Text.forall_mem_of_all (by decide)) (by decide)

/-- **Not every blank stands between arguments.**  The words of this line are a command and two
arguments, and the line fails. -/
theorem not_ended_command_words :
    ∃ (root target : Command) (line : Text) (path : String) (args : List String),
      '"' ∉ line ∧ words line = path :: args ∧ (∀ name ∈ splitPath path, name ≠ "") ∧
      root.find? (splitPath path) = some target ∧
      ∀ d, (ended (command root)).run line ≠ .ok (execute root target args) d := by
  have hfind : standard.find? (splitPath "echo") =
      some ((Command.new .echo).describe "Echo text.") := rfl
  refine ⟨standard, _, "echo a\x0bb".toList, "echo", ["a", "b"], by decide, by decide, by decide,
    hfind, fun d hok => ?_⟩
  have hwords : words "echo a".toList = ["echo", "a"] := by decide
  have hbarrier : ∀ y ∈ ['\x0b', 'b'].head?, isBarrier y = true := by
    rintro _ ⟨⟩
    decide
  have htakes := command_takes_words (Text.forall_mem_of_all (by decide)) (by decide) hwords
    (by decide) hfind hbarrier
  cases hok.symm.trans (htakes.ended_error (by simp) [])

end Shell

end Backtrack
