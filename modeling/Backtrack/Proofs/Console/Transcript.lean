import Backtrack.Proofs.Console.Trailing
import Backtrack.Proofs.Shell.Help

/-!
# One answer for each line

The console is a loop over what is still to be read.  What it prints can be said without the loop:
the banner, then for each line the prompt and the answer to that line, and a last prompt where the
input ends.  Nothing that is read changes how a later line is answered.

* `Lines` — how a text is made of lines, said of the text alone; every text is (`exists_lines`);
* `Lines.dialogue_eq` — what the loop prints, by induction on the lines;
* `exists_dialogue_append` — a text that ends with a line feed can be typed ahead of any other;
* `run_transcript` — the same about the whole program.
-/

set_option autoImplicit false

namespace Backtrack

namespace Console

/-! ## Lines -/

/-- A text is made of lines.  Each of them ends with its only line feed, and the last one may be
without it if there is anything in it. -/
inductive Lines : Text → List Text → Prop
  /-- Nothing is left. -/
  | nil : Lines [] []
  /-- The last line has no line feed. -/
  | last {w : Text} (hne : w ≠ []) (hw : '\n' ∉ w) : Lines w [w]
  /-- A line and the ones behind it. -/
  | cons {w s : Text} {ls : List Text} (hw : '\n' ∉ w) (h : Lines s ls) :
      Lines (w ++ '\n' :: s) ((w ++ ['\n']) :: ls)

/-- **Every text is made of lines.**  A further character in front is a line of its own if it is a
line feed, and otherwise it begins the first line. -/
theorem exists_lines (s : Text) : ∃ ls, Lines s ls := by
  induction s with
  | nil => exact ⟨[], .nil⟩
  | cons x s ih =>
    obtain ⟨ls, h⟩ := ih
    by_cases hx : x = '\n'
    · subst hx
      exact ⟨_, .cons (w := []) (by simp) h⟩
    · cases h with
      | nil => exact ⟨_, .last (w := [x]) (by simp) (by simpa using Ne.symm hx)⟩
      | last hne hw => exact ⟨_, .last (w := x :: s) (by simp) (by simp [hw, Ne.symm hx])⟩
      | @cons w t ls hw h => exact ⟨_, .cons (w := x :: w) (by simp [hw, Ne.symm hx]) h⟩

theorem readLine_of_not_mem {w : Text} (hw : '\n' ∉ w) : readLine w = (w, []) := by
  induction w with
  | nil => rfl
  | cons x w ih =>
    rw [List.mem_cons, not_or] at hw
    rw [readLine, if_neg (Ne.symm hw.1), ih hw.2]

theorem readLine_line {w : Text} (hw : '\n' ∉ w) (s : Text) :
    readLine (w ++ '\n' :: s) = (w ++ ['\n'], s) := by
  induction w with
  | nil => rfl
  | cons x w ih =>
    rw [List.mem_cons, not_or] at hw
    rw [List.cons_append, readLine, if_neg (Ne.symm hw.1), ih hw.2]
    rfl

/-! ## The dialogue -/

variable (colors : Bool) (o : Options)

/-- What is printed for a line as it was typed: the prompt and the answer. -/
def exchange (line : Text) : String := prompt o ++ response colors o (stripEnding line)

theorem dialogue_nil : dialogue colors o [] = prompt o ++ "\n" := by
  rw [dialogue]
  rfl

theorem dialogue_of_readLine {input line rest : Text} (hne : line ≠ [])
    (h : readLine input = (line, rest)) :
    dialogue colors o input = exchange colors o line ++ dialogue colors o rest := by
  obtain ⟨x, line, rfl⟩ := List.exists_cons_of_ne_nil hne
  rw [dialogue]
  split
  next hread => cases hread.symm.trans h
  next hread =>
    cases hread.symm.trans h
    rfl

theorem dialogue_line {w : Text} (hw : '\n' ∉ w) (s : Text) :
    dialogue colors o (w ++ '\n' :: s) = exchange colors o (w ++ ['\n']) ++ dialogue colors o s :=
  dialogue_of_readLine colors o (by simp) (readLine_line hw s)

/-- **Each line is answered once and in its place.** -/
theorem Lines.dialogue_eq {input : Text} {ls : List Text} (h : Lines input ls) :
    dialogue colors o input = String.join (ls.map (exchange colors o)) ++ (prompt o ++ "\n") := by
  induction h with
  | nil => simp [dialogue_nil]
  | last hne hw =>
    rw [dialogue_of_readLine colors o hne (readLine_of_not_mem hw), dialogue_nil]
    simp
  | cons hw h ih =>
    rw [dialogue_line colors o hw, ih, List.map_cons, String.join_cons, String.append_assoc]

/-- **A text that ends with a line feed can be typed ahead of any other**, and it is answered as if
nothing followed. -/
theorem exists_dialogue_append (a : Text) :
    ∃ body, ∀ b, dialogue colors o (a ++ '\n' :: b) = body ++ dialogue colors o b := by
  obtain ⟨ls, h⟩ := exists_lines a
  induction h with
  | nil => exact ⟨_, dialogue_line colors o (by simp)⟩
  | last hne hw => exact ⟨_, dialogue_line colors o hw⟩
  | @cons w s ls hw h ih =>
    obtain ⟨body, hbody⟩ := ih
    refine ⟨exchange colors o (w ++ ['\n']) ++ body, fun b => ?_⟩
    rw [List.append_assoc, List.cons_append, dialogue_line colors o hw, hbody, String.append_assoc]

/-! ## The answer to a line -/

theorem response_of_blank {line : Text} (h : Text.trim line = []) :
    response colors o line = "" := by
  rw [response, h]
  rfl

/-- The end of the line may be required or not: a line is answered in both cases. -/
theorem answer_ne_diverge (choice : Choice) (allowTrailing : Bool) (line : Text) :
    answer choice allowTrailing line ≠ .diverge := by
  have hrun := choice.parser_run_ne_diverge line
  cases allowTrailing with
  | true => exact hrun
  | false =>
    rcases (Parser.ended_differs hrun fun {e} => choice.kind_ne_expectEnd).2 with ⟨rest, h⟩ | h
    · exact fun hdiverge => by cases h.symm.trans hdiverge
    · exact fun hdiverge => hrun (h.symm.trans hdiverge)

/-- **A line that is not blank is answered** with its value or with its error. -/
theorem response_of_not_blank {line : Text} (h : Text.trim line ≠ []) :
    (∃ value c, answer o.choice o.allowTrailing line = .ok value c ∧
      response colors o line = value ++ "\n") ∨
    ∃ e, answer o.choice o.allowTrailing line = .error e ∧
      response colors o line = errorText (o.coloring.applies colors) e := by
  rw [response, if_neg (by simpa using h)]
  cases hanswer : answer o.choice o.allowTrailing line with
  | ok value c => exact .inl ⟨value, c, rfl, rfl⟩
  | error e => exact .inr ⟨e, rfl, rfl⟩
  | diverge => exact absurd hanswer (answer_ne_diverge _ _ _)

/-! ## The whole program -/

/-- **The console answers each line once, in order, and remembers nothing.**  For all options `o`,
and whether the terminal shows colors or not, the answer to a line is a function `response colors o`
of that line, which is empty for a blank line and otherwise gives the value or the error of the
line.  What is printed is the banner, the prompt and the answer for each line of the input without
the line ending, and a last prompt.  Hence a text that ends with a line feed and a text behind it
are answered as they are by themselves.  All this is what the program does when its arguments ask
for a run with the options `o`. -/
theorem run_transcript (colors : Bool) (o : Options) :
    (∀ line, Text.trim line = [] → response colors o line = "") ∧
    (∀ line, Text.trim line ≠ [] →
      (∃ value c, answer o.choice o.allowTrailing line = .ok value c ∧
        response colors o line = value ++ "\n") ∨
      ∃ e, answer o.choice o.allowTrailing line = .error e ∧
        response colors o line = errorText (o.coloring.applies colors) e) ∧
    (∀ input, (∃ ls, Lines input ls) ∧ ∀ ls, Lines input ls →
      session colors o input = ⟨("Parsecond REPL - " ++ o.prompt ++ "\n") ++
        (String.join (ls.map fun line => o.prompt ++ "> " ++ response colors o (stripEnding line)) ++
          (o.prompt ++ "> " ++ "\n")), 0⟩) ∧
    (∀ a b, ∃ body tail,
      session colors o (a ++ ['\n']) = ⟨body ++ (o.prompt ++ "> " ++ "\n"), 0⟩ ∧
      session colors o b = ⟨"Parsecond REPL - " ++ o.prompt ++ "\n" ++ tail, 0⟩ ∧
      session colors o (a ++ '\n' :: b) = ⟨body ++ tail, 0⟩) ∧
    ∀ args, request args = .run o → ∀ input,
      runOn colors args input = session colors o input := by
  have hrun : ∀ input, session colors o input = ⟨banner o ++ dialogue colors o input, 0⟩ :=
    fun input => rfl
  refine ⟨fun line => response_of_blank colors o, fun line => response_of_not_blank colors o,
    fun input => ⟨exists_lines input, fun ls hls => ?_⟩, fun a b => ?_, fun args hargs input => ?_⟩
  · rw [hrun, hls.dialogue_eq]
    rfl
  · obtain ⟨body, hbody⟩ := exists_dialogue_append colors o a
    refine ⟨banner o ++ body, dialogue colors o b, ?_, hrun b, ?_⟩
    · rw [hrun, hbody, dialogue_nil, ← String.append_assoc]
      rfl
    · rw [hrun, hbody, ← String.append_assoc]
  · rw [runOn, hargs]

/-- Both line endings, two blank lines, and a last line that ends with the input and names a command
that there is not. -/
theorem run_transcript_lineEndings :
    let args := ["--prompt=sh", "--grammar=shell"]
    let input := "foo.bar\r\n\t\n\nfoo.baz".toList
    let ls := ["foo.bar\r\n".toList, "\t\n".toList, "\n".toList, "foo.baz".toList]
    request args = .run ⟨.shell, false, "sh", .auto⟩ ∧ Lines input ls ∧
    run args input = ⟨"Parsecond REPL - sh\nsh> bar\nsh> sh> sh> " ++
      "Error [Custom]: Command 'foo.baz' not found.\nsh> \n", 0⟩ := by
  intro args input ls
  have hrequest : request args = .run ⟨.shell, false, "sh", .auto⟩ := by
    have hprompt : "--".isPrefixOf "--prompt=sh" = true :=
      String.startsWith_string_iff.2 ⟨"prompt=sh".toList, rfl⟩
    have hgrammar : "--".isPrefixOf "--grammar=shell" = true :=
      String.startsWith_string_iff.2 ⟨"grammar=shell".toList, rfl⟩
    have hsplit : splitArgument? "--prompt=sh" = some ("--prompt", "sh") := rfl
    have hsplit' : splitArgument? "--grammar=shell" = some ("--grammar", "shell") := rfl
    have hset : Given.nothing.set? "--prompt" "sh" = some ⟨none, false, some "sh", none⟩ := rfl
    have hset' : Given.set? ⟨none, false, some "sh", none⟩ "--grammar" "shell" =
        some ⟨some .shell, false, some "sh", none⟩ := rfl
    simp [args, request, readArguments, hprompt, hgrammar, hsplit, hsplit', hset, hset',
      Given.options]
  have hlines : Lines input ls :=
    .cons (w := "foo.bar\r".toList) (by decide) (.cons (w := ['\t']) (by decide)
      (.cons (w := []) (by decide) (.last (by decide) (by decide))))
  have hfirst : response false ⟨.shell, false, "sh", .auto⟩ "foo.bar".toList = "bar\n" := by
    have hrun := Shell.ended_command_path (Shell.forall_names_of_all rfl)
      (show Shell.standard.find? (Shell.splitPath "foo.bar") = _ from rfl)
    rw [response, if_neg (by decide), answer, if_neg (by decide), Choice.parser, hrun]
    rfl
  have hlast : response false ⟨.shell, false, "sh", .auto⟩ "foo.baz".toList =
      "Error [Custom]: Command 'foo.baz' not found.\n" := by
    have hrun := Shell.ended_command_path_of_none (Shell.forall_names_of_all rfl)
      (show Shell.standard.find? (Shell.splitPath "foo.baz") = none from rfl)
    rw [response, if_neg (by decide), answer, if_neg (by decide), Choice.parser, hrun]
    rfl
  obtain ⟨hblank, -, hrun, -, hargs⟩ := run_transcript false ⟨.shell, false, "sh", .auto⟩
  refine ⟨hrequest, hlines, ?_⟩
  rw [run, hargs args hrequest, (hrun input).2 ls hlines]
  simp only [ls, List.map_cons, List.map_nil]
  rw [show stripEnding "foo.bar\r\n".toList = "foo.bar".toList from rfl, hfirst,
    show stripEnding "\t\n".toList = ['\t'] from rfl, hblank _ rfl,
    show stripEnding "\n".toList = [] from rfl, hblank _ rfl,
    show stripEnding "foo.baz".toList = "foo.baz".toList from rfl, hlast]
  rfl

end Console

end Backtrack
