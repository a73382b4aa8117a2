import Backtrack.Proofs.Failing
import Backtrack.Proofs.Shell.RoundTrip
import Backtrack.Proofs.Termination

/-!
# What comes of a command line

Whatever a line looks like, its beginning decides what comes of it.  `leadingPath` says which path a
line begins with, in terms of the text alone: `foo..bar` and `foo.` begin with the path of `foo`, and
a line that begins with a point has no path.  There are three cases:

* there is no path, and the line is a mismatch;
* the path leads nowhere, and the message names it, whatever follows;
* the path leads to a command, and the command runs.  Its arguments cannot fail, since there may be
  none (`arguments_succeeds`), so all that can be wrong after that is that something is left.

What is read as the path is known once the text is cut into names and what ends the path
(`exists_leadingNames`), which is by induction on its length, one name and one point at a time.
-/

set_option autoImplicit false

namespace Backtrack

namespace Parser

variable {α β : Type} {p : Parser α} {f : α → Parser β} {c d : Cursor} {v : α} {e : ParseError}

/-! ## One stage after another

Here it is known at a single place what a parser does, and not, as for `Takes`, in front of a text
wherever it stands. -/

theorem bind_of_ok (h : p c = .ok v d) : Parser.bind p f c = f v d := by rw [Parser.bind, h]

theorem bind_of_error (h : p c = .error e) : Parser.bind p f c = .error e := by rw [Parser.bind, h]

theorem ended_of_error (h : p c = .error e) : ended p c = .error e := bind_of_error h

/-- Behind a parser that succeeds there is nothing left, or what is left is reported. -/
theorem ended_of_ok (h : p c = .ok v d) :
    d.rest = [] ∧ ended p c = .ok v d ∨
      d.rest ≠ [] ∧ ended p c = .error (.expectEnd (String.ofList d.rest)) := by
  have hended : ended p c = Parser.bind endOfInput (fun _ => Parser.pure v) d := bind_of_ok h
  by_cases hrest : d.rest = []
  · have hend : endOfInput d = .ok () d := if_pos (by rw [Cursor.atEnd, hrest]; rfl)
    exact .inl ⟨hrest, hended.trans (bind_of_ok hend)⟩
  · have hend : endOfInput d = .error (.expectEnd (String.ofList d.rest)) :=
      if_neg (by simpa [Cursor.atEnd] using hrest)
    exact .inr ⟨hrest, hended.trans (bind_of_error hend)⟩

/-- The place behind the gap that begins at a place. -/
def behindGap (c : Cursor) : Cursor :=
  c.moveTo (c.rest.takeWhile isWhite) (c.rest.dropWhile isWhite)

theorem many_white_eq_ok (c : Cursor) :
    many white c = .ok (c.rest.takeWhile isWhite) (behindGap c) := by
  have h := many_satisfy_takes (Text.run_takeWhile isWhite c.rest) c.past
  rwa [List.takeWhile_append_dropWhile] at h

theorem spaced_of_error (h : p (behindGap c) = .error e) : spaced p c = .error e :=
  (bind_of_ok (many_white_eq_ok c)).trans (bind_of_error h)

theorem spaced_of_ok (h : p (behindGap c) = .ok v d) : spaced p c = .ok v (behindGap d) :=
  (bind_of_ok (many_white_eq_ok c)).trans ((bind_of_ok h).trans (bind_of_ok (many_white_eq_ok d)))

end Parser

namespace Shell

open Backtrack.Parser

/-! ## The path at the beginning of a line -/

/-- The names of the path with which a text begins: what stands in front of the first blank is split
at its points, and the names count up to the first one that is empty. -/
def leadingNames (s : Text) : List String :=
  (splitPath (String.ofList (s.takeWhile fun x => !Text.isBlank x))).takeWhile fun name => name ≠ ""

/-- The names of the path with which a line begins, behind the gap in front of it. -/
def leadingPath (line : Text) : List String := leadingNames (line.dropWhile isWhite)

theorem splitPath_go_append {name w : Text} (hw : '.' ∉ w) (s : Text) :
    splitPath.go name (w ++ s) = splitPath.go (w.reverse ++ name) s := by
  induction w generalizing name with
  | nil => rfl
  | cons x w ih =>
    rw [List.mem_cons, not_or] at hw
    rw [List.cons_append, splitPath.go, if_neg (Ne.symm hw.1), ih hw.2, List.reverse_cons,
      List.append_assoc, List.singleton_append]

/-- What is split begins with the name at its beginning, which has no point in it. -/
theorem IsName.splitPath_append {name : String} (h : IsName name) (s : Text) :
    splitPath (String.ofList (name.toList ++ s)) = splitPath.go name.toList.reverse s := by
  have hpoint : '.' ∉ name.toList := fun hmem => by simpa using h.plain '.' hmem
  rw [splitPath, String.toList_ofList, splitPath_go_append hpoint, List.append_nil]

theorem IsName.takeWhile_append {name : String} (h : IsName name) (s : Text) :
    (name.toList ++ s).takeWhile (fun x => !Text.isBlank x) =
      name.toList ++ s.takeWhile fun x => !Text.isBlank x := by
  refine List.takeWhile_append_of_pos fun x hx => ?_
  have hplain := h.plain x hx
  rw [Bool.and_eq_true] at hplain
  exact hplain.2

theorem IsName.ne_empty {name : String} (h : IsName name) : name ≠ "" :=
  fun hname => h.ne_nil (by rw [hname]; rfl)

theorem BlankAhead.takeWhile_eq_nil {r : Text} (h : BlankAhead r) :
    r.takeWhile (fun x => !Text.isBlank x) = [] := by
  cases r with
  | nil => rfl
  | cons x r => rw [List.takeWhile_cons_of_neg (by simp [h x rfl])]

theorem NoNameAhead.blankAhead {r : Text} (h : NoNameAhead r) (hpoint : r.head? ≠ some '.') :
    BlankAhead r := by
  intro x hx
  have hx' : x ≠ '.' := fun h => hpoint (h ▸ hx)
  simpa [hx'] using h x hx

/-- A text that does not begin with a name begins with no path. -/
theorem leadingNames_eq_nil {s : Text} (h : NoNameAhead s) : leadingNames s = [] := by
  by_cases hpoint : s.head? = some '.'
  · obtain ⟨t, rfl⟩ := List.head?_eq_some_iff.1 hpoint
    rw [leadingNames, List.takeWhile_cons_of_pos (by decide), splitPath, String.toList_ofList,
      splitPath.go, if_pos rfl, List.takeWhile_cons_of_neg (by decide)]
  · rw [leadingNames, (h.blankAhead hpoint).takeWhile_eq_nil]
    rfl

/-- A name in front of a blank or of the end is a path of its own. -/
theorem leadingNames_blank {name : String} {r : Text} (hname : IsName name) (hr : BlankAhead r) :
    leadingNames (name.toList ++ r) = [name] := by
  rw [leadingNames, hname.takeWhile_append, hr.takeWhile_eq_nil, hname.splitPath_append,
    splitPath.go, List.reverse_reverse, String.ofList_toList,
    List.takeWhile_cons_of_pos (by simp [hname.ne_empty]), List.takeWhile_nil]

/-- A name in front of a point is the first one of a path. -/
theorem leadingNames_point {name : String} (hname : IsName name) (s : Text) :
    leadingNames (name.toList ++ '.' :: s) = name :: leadingNames s := by
  rw [leadingNames, hname.takeWhile_append, List.takeWhile_cons_of_pos (by decide),
    hname.splitPath_append, splitPath.go, if_pos rfl, List.reverse_reverse, String.ofList_toList,
    List.takeWhile_cons_of_pos (by simp [hname.ne_empty]), leadingNames, splitPath,
    String.toList_ofList]

/-- **Every text is cut** into the names with which it begins and what ends the path. -/
theorem exists_leadingNames (s : Text) :
    (leadingNames s = [] ∧ NoNameAhead s) ∨
    ∃ name names r, leadingNames s = name :: names ∧ (∀ n ∈ name :: names, IsName n) ∧
      s = name.toList ++ (furtherNames names ++ r) ∧ EndsPath r := by
  induction hlength : s.length using Nat.strongRecOn generalizing s with
  | ind k ih =>
  obtain ⟨w, r, rfl, hrun⟩ := Text.exists_run (fun x => x != '.' && !Text.isBlank x) s
  have hstop : NoNameAhead r := hrun.stop
  by_cases hw : w = []
  · subst hw
    exact .inl ⟨leadingNames_eq_nil hstop, hstop⟩
  obtain ⟨name, rfl⟩ : ∃ name : String, w = name.toList :=
    ⟨String.ofList w, String.toList_ofList.symm⟩
  have hname : IsName name := ⟨hw, hrun.all⟩
  right
  by_cases hpoint : r.head? = some '.'
  · obtain ⟨t, rfl⟩ := List.head?_eq_some_iff.1 hpoint
    rw [leadingNames_point hname]
    have hlt : t.length < k := by
      rw [← hlength, List.length_append, List.length_cons]
      omega
    rcases ih t.length hlt t rfl with ⟨hnil, hnext⟩ | ⟨next, names, r, hnames, hall, rfl, hr⟩
    -- a point with no name behind it ends the path and is not part of it
    · refine ⟨name, [], '.' :: t, by rw [hnil], by simpa using hname, rfl, hstop, ?_⟩
      intro t' ht'
      obtain rfl := (List.cons.inj ht').2
      exact hnext
    · refine ⟨name, next :: names, r, by rw [hnames], ?_, by simp [furtherNames], hr⟩
      exact List.forall_mem_cons.2 ⟨hname, hall⟩
  · have hblank := hstop.blankAhead hpoint
    exact ⟨name, [], r, leadingNames_blank hname hblank, by simpa using hname, rfl,
      hblank.endsPath⟩

/-! ## Arguments -/

theorem arguments_progressive : Progressive arguments := by
  have hgap : Progressive (many1 white) := .many1 (.satisfy _) (satisfy_advances _)
  have hgap_advances : Advances (many1 white) :=
    Advances.many1 (satisfy_forward _) (satisfy_advances _)
  have hquoted : Progressive quotedWord :=
    .bind (.satisfy _) fun _ => .bind (.map _ (.many (.satisfy _) (satisfy_advances _))) fun _ =>
      .bind (.satisfy _) fun _ => .pure _
  have hword : Progressive word := .map _ (.many1 (.satisfy _) (satisfy_advances _))
  have hargument : Progressive argument := by
    refine .firstOf fun p hp => ?_
    simp only [List.mem_cons, List.not_mem_nil, or_false] at hp
    obtain rfl | rfl := hp
    · exact hquoted
    · exact hword
  have hadvances : (pair (many1 white) argument).Advances := hgap_advances.pair hargument.forward
  exact .map _ (.optional (.bind hgap fun _ => .separatedBy1 hargument hgap hadvances))

/-- **Arguments do not fail**, since there may be none. -/
theorem arguments_succeeds (c : Cursor) : ∃ args d, arguments c = .ok args d := by
  cases h : arguments c with
  | ok args d => exact ⟨args, d, rfl⟩
  | error e => exact absurd (map_eq_error h) (optional_ne_error _ _ _)
  | diverge => exact absurd h (arguments_progressive.returns c)

/-! ## Lines -/

variable {root target : Command} {line : Text}

theorem commandPath_error (h : leadingPath line = []) :
    commandPath (behindGap (.start line)) = .error .mismatch := by
  rcases exists_leadingNames (line.dropWhile isWhite) with
    ⟨-, hstop⟩ | ⟨name, names, r, hnames, -⟩
  · exact (segment_refuses hstop).separatedBy1 _ _
  · rw [leadingPath, hnames] at h
    cases h

theorem commandPath_ok (h : leadingPath line ≠ []) :
    ∃ d, commandPath (behindGap (.start line)) = .ok (leadingPath line) d := by
  rcases exists_leadingNames (line.dropWhile isWhite) with
    ⟨hnil, -⟩ | ⟨name, names, r, hnames, hall, hline, hr⟩
  · exact absurd hnil h
  · have htakes := commandPath_takes_names hall hr (behindGap (.start line)).past
    rw [List.append_assoc, ← hline, ← hnames] at htakes
    exact ⟨_, htakes⟩

theorem command_run_of_nil (h : leadingPath line = []) :
    (command root).run line = .error .mismatch :=
  spaced_of_error (bind_of_error (commandPath_error h))

theorem command_run_of_none (h : leadingPath line ≠ [])
    (hfind : root.find? (leadingPath line) = none) :
    (command root).run line = .error (.custom (notFound (".".intercalate (leadingPath line)))) := by
  obtain ⟨d, hpath⟩ := commandPath_ok h
  refine spaced_of_error ((bind_of_ok hpath).trans ?_)
  rw [runAt, hfind]
  rfl

/-- **A command that is found runs**, and a beginning of the line has been read for it. -/
theorem command_run_of_some (h : leadingPath line ≠ [])
    (hfind : root.find? (leadingPath line) = some target) :
    ∃ args w r, line = w ++ r ∧
      (command root).run line = .ok (execute root target args) ⟨w.reverse, r⟩ := by
  obtain ⟨d, hpath⟩ := commandPath_ok h
  obtain ⟨args, d', hargs⟩ := arguments_succeeds d
  have hspaced : (commandPath >>= runAt root) (behindGap (.start line)) =
      .ok (execute root target args) d' := by
    refine (bind_of_ok hpath).trans ?_
    rw [runAt, hfind]
    simp only [Parser.map, hargs, Outcome.map]
  have hrun : (command root).run line = .ok (execute root target args) (behindGap d') :=
    spaced_of_ok hspaced
  have hcomposed : Composed (fun _ => True) (command root) := .command trivial root
  obtain ⟨w, hw, hd⟩ := hcomposed.forward hrun
  rw [Cursor.moveTo, Cursor.start, List.append_nil] at hd
  exact ⟨args, w, (behindGap d').rest, hw, hd ▸ hrun⟩

/-- **The path decides what comes of a line.**  A line is a mismatch exactly if it begins with no
path.  If its path leads nowhere, the message names the path, whatever follows it.  If its path
leads to a command, that command runs on some arguments, and it is an error only if something of the
line is left. -/
theorem ended_command_resolves (root : Command) (line : Text) :
    ((ended (command root)).run line = .error .mismatch ↔ leadingPath line = []) ∧
    (leadingPath line ≠ [] → root.find? (leadingPath line) = none →
      (ended (command root)).run line =
        .error (.custom ("Command '" ++ ".".intercalate (leadingPath line) ++ "' not found."))) ∧
    ∀ target, leadingPath line ≠ [] → root.find? (leadingPath line) = some target →
      ∃ args w r, line = w ++ r ∧
        (command root).run line = .ok (execute root target args) ⟨w.reverse, r⟩ ∧
        (r = [] ∧ (ended (command root)).run line =
            .ok (execute root target args) ⟨w.reverse, r⟩ ∨
          r ≠ [] ∧ (ended (command root)).run line = .error (.expectEnd (String.ofList r))) := by
  refine ⟨⟨fun hmismatch => Classical.byContradiction fun h => ?_,
    fun h => ended_of_error (command_run_of_nil h)⟩,
    fun h hfind => ended_of_error (command_run_of_none h hfind), fun target h hfind => ?_⟩
  · cases hfind : root.find? (leadingPath line) with
    | none => cases (ended_of_error (command_run_of_none h hfind)).symm.trans hmismatch
    | some target =>
      obtain ⟨args, w, r, -, hrun⟩ := command_run_of_some h hfind
      rcases ended_of_ok hrun with ⟨-, hended⟩ | ⟨-, hended⟩
      · cases hended.symm.trans hmismatch
      · cases hended.symm.trans hmismatch
  · obtain ⟨args, w, r, hline, hrun⟩ := command_run_of_some h hfind
    exact ⟨args, w, r, hline, hrun, ended_of_ok hrun⟩

/-- Three lines of the standard shell: one that begins with a point, one whose path leads nowhere
and is followed by an open quotation, and one whose path is cut at the second of two points. -/
theorem ended_command_resolves_points :
    let pointed := " .foo".toList
    let unknown := "\tfoo.baz \"x".toList
    let cut := "foo..bar x".toList
    (leadingPath pointed = [] ∧ (ended (command standard)).run pointed = .error .mismatch) ∧
    (leadingPath unknown = ["foo", "baz"] ∧ standard.find? ["foo", "baz"] = none ∧
      (ended (command standard)).run unknown =
        .error (.custom "Command 'foo.baz' not found.")) ∧
    leadingPath cut = ["foo"] ∧
      ∃ w r, cut = w ++ r ∧ (command standard).run cut = .ok "foo" ⟨w.reverse, r⟩ ∧
        (r = [] ∧ (ended (command standard)).run cut = .ok "foo" ⟨w.reverse, r⟩ ∨
          r ≠ [] ∧ (ended (command standard)).run cut = .error (.expectEnd (String.ofList r))) := by
  intro pointed unknown cut
  have hpointed : leadingPath " .foo".toList = [] := rfl
  have hunknown : leadingPath "\tfoo.baz \"x".toList = ["foo", "baz"] := rfl
  have hcut : leadingPath "foo..bar x".toList = ["foo"] := rfl
  refine ⟨⟨hpointed, (ended_command_resolves standard pointed).1.2 hpointed⟩,
    ⟨hunknown, rfl, ?_⟩, hcut, ?_⟩
  · have h := (ended_command_resolves standard unknown).2.1
    rw [hunknown] at h
    exact h (by decide) rfl
  · have h := (ended_command_resolves standard cut).2.2
    rw [hcut] at h
    obtain ⟨args, hrun⟩ := h _ (by decide) rfl
    exact hrun

end Shell

end Backtrack
