import Backtrack.Proofs.Shell.Resolution
import Mathlib.Data.List.TakeWhile

/-!
# Asking for help

A command is found in two ways, by a line that begins with its path and by a line that asks for help
about it.  In the first, the names are read one by one and the message about a path that leads
nowhere joins them again.  In the second, the path is an argument like any other, and it is split at
its points only after it has been read.  Both come to the same:

* `leadingPath_eq_splitPath` — the names with which a path begins as a line are the names into which
  it is split;
* `intercalate_splitPath` — the names joined again are the path;
* `ended_command_help` — an argument that is a path reaches the help text as it is.

So a path is unknown in both ways or in none (`help_iff_command`).
-/

set_option autoImplicit false

namespace Backtrack

namespace Shell

open Backtrack.Parser

/-! ## Paths as text -/

theorem toList_intercalate_names (name : String) (names : List String) :
    (".".intercalate (name :: names)).toList = name.toList ++ furtherNames names := by
  induction names generalizing name with
  | nil => simp [furtherNames]
  | cons next names ih =>
    rw [String.intercalate_cons_cons, String.toList_append, String.toList_append, ih]
    simp [furtherNames]

/-- Joining the names of a path gives the path. -/
theorem intercalate_splitPath (path : String) : ".".intercalate (splitPath path) = path := by
  obtain ⟨first, names, hsplit, htext⟩ := exists_splitPath path
  apply String.toList_injective
  rw [hsplit, toList_intercalate_names, htext]

/-! ## Help texts -/

theorem help_of_none {root : Command} {path : String} (hne : path ≠ "")
    (hfind : root.find? (splitPath path) = none) : help root path = notFound path := by
  simp [help, hne, hfind]

/-- Help about a command begins with its path. -/
theorem help_of_some {root target : Command} {path : String} (hne : path ≠ "")
    (hfind : root.find? (splitPath path) = some target) :
    ∃ rest, help root path = path ++ ": " ++ rest := by
  simp only [help, String.isEmpty_iff, hne, if_false, hfind, String.append_assoc]
  exact ⟨_, rfl⟩

/-! ## Paths of names without blanks -/

/-- What is asked of the names of a path can be checked one by one. -/
theorem forall_names_of_all {names : List String}
    (h : names.all (fun name => name != "" && name.toList.all fun x => !Text.isBlank x) = true) :
    ∀ name ∈ names, name ≠ "" ∧ ∀ x ∈ name.toList, Text.isBlank x = false := by
  intro name hname
  have hchecked := List.all_eq_true.1 h name hname
  rw [Bool.and_eq_true] at hchecked
  refine ⟨bne_iff_ne.1 hchecked.1, fun x hx => ?_⟩
  simpa using List.all_eq_true.1 hchecked.2 x hx

section Path

variable {path : String}
  (hpath : ∀ name ∈ splitPath path, name ≠ "" ∧ ∀ x ∈ name.toList, Text.isBlank x = false)

include hpath

theorem path_ne_empty : path ≠ "" := by
  rintro rfl
  exact (hpath "" (by decide)).1 rfl

/-- The characters of a path are those of its names and the points between them. -/
theorem isBlank_of_mem_path : ∀ x ∈ path.toList, Text.isBlank x = false := by
  intro x hx
  obtain ⟨first, names, hsplit, htext⟩ := exists_splitPath path
  rw [hsplit] at hpath
  rw [htext, List.mem_append, furtherNames, List.mem_flatMap] at hx
  rcases hx with hx | ⟨name, hname, hx⟩
  · exact (hpath first (by simp)).2 x hx
  · rcases List.mem_cons.1 hx with rfl | hx
    · rfl
    · exact (hpath name (by simp [hname])).2 x hx

/-- **A path that is a line begins with itself.** -/
theorem leadingPath_eq_splitPath : leadingPath path.toList = splitPath path := by
  have hblank := isBlank_of_mem_path hpath
  have hgap : path.toList.dropWhile isWhite = path.toList := by
    refine List.dropWhile_eq_self_iff.2 fun hlength hwhite => ?_
    cases (isBlank_of_isWhite hwhite).symm.trans (hblank _ (List.getElem_mem hlength))
  have hword : path.toList.takeWhile (fun x => !Text.isBlank x) = path.toList :=
    List.takeWhile_eq_self_iff.2 fun x hx => by simp [hblank x hx]
  rw [leadingPath, leadingNames, hgap, hword, String.ofList_toList]
  exact List.takeWhile_eq_self_iff.2 fun name hname => by simp [(hpath name hname).1]

/-- What begins with a path and a colon is not the message that there is no such path. -/
theorem path_append_ne_notFound (rest : String) : path ++ ": " ++ rest ≠ notFound path := by
  intro h
  have hblank := isBlank_of_mem_path hpath
  -- the first blank of the one stands behind a colon, and that of the other behind `Command`
  have hwords := congrArg (fun s : String => s.toList.takeWhile fun x => !Text.isBlank x) h
  have hlabel : (path ++ ": " ++ rest).toList.takeWhile (fun x => !Text.isBlank x) =
      path.toList ++ [':'] := by
    rw [String.append_assoc, String.toList_append,
      List.takeWhile_append_of_pos fun x hx => by simp [hblank x hx], String.toList_append]
    rfl
  have hmessage : (notFound path).toList.takeWhile (fun x => !Text.isBlank x) =
      "Command".toList := by
    rw [notFound, String.append_assoc, String.toList_append]
    rfl
  have hlast := congrArg List.getLast? (hlabel.symm.trans (hwords.trans hmessage))
  rw [List.getLast?_concat] at hlast
  cases hlast

/-! ## Lines that begin with a path -/

variable {root : Command}

/-- A line is done if a path at its beginning leads to a command that reads the rest of it. -/
theorem ended_command_of_takes {written : Text} {v : String} (hblank : BlankAhead written)
    (hrun : (runAt root (splitPath path)).Takes written [] v) :
    (ended (command root)).run (path.toList ++ written) =
      .ok v ⟨(path.toList ++ written).reverse, []⟩ := by
  have hend : IsGap [] := by decide
  have hnames : commandPath.Takes path.toList (written ++ []) (splitPath path) := by
    simpa using commandPath_takes hpath hblank
  have hbefore : Text.Run isWhite [] (path.toList ++ written ++ ([] ++ [])) := by
    simpa using run_isWhite_of_takes commandPath_refuses hend hnames
  have hline : (command root).Takes ([] ++ (path.toList ++ written ++ [])) [] v :=
    Takes.spaced hbefore (hnames.bind hrun) ⟨hend, by simp⟩
  have h := hline.ended []
  simpa [Parser.run, Cursor.start] using h

/-- **A path alone runs its command** without arguments. -/
theorem ended_command_path {target : Command} (hfind : root.find? (splitPath path) = some target) :
    (ended (command root)).run path.toList =
      .ok (execute root target []) ⟨path.toList.reverse, []⟩ := by
  have hrun : (runAt root (splitPath path)).Takes [] [] (execute root target []) := by
    rw [runAt, hfind]
    exact (arguments_takes .nil (by decide)).map _
  simpa using ended_command_of_takes hpath (by simp [BlankAhead]) hrun

/-- A path alone that leads nowhere is named by the message as it is. -/
theorem ended_command_path_of_none (hfind : root.find? (splitPath path) = none) :
    (ended (command root)).run path.toList = .error (.custom (notFound path)) := by
  have hleading := leadingPath_eq_splitPath hpath
  have hne : leadingPath path.toList ≠ [] := by
    obtain ⟨first, names, hsplit, -⟩ := exists_splitPath path
    rw [hleading, hsplit]
    simp
  have h := command_run_of_none hne (hleading ▸ hfind)
  rw [hleading, intercalate_splitPath] at h
  exact ended_of_error h

/-- **An argument that is a path is read as it is**, so help is given about that path. -/
theorem ended_command_help {helper : Command} (hhelper : root.find? ["help"] = some helper)
    (haction : helper.action = .help) (hquote : path.toList.head? ≠ some '"') :
    (ended (command root)).run ("help ".toList ++ path.toList) =
      .ok (help root path) ⟨("help ".toList ++ path.toList).reverse, []⟩ := by
  have hend : IsGap [] := by decide
  have hargs : WrittenArguments [path] (' ' :: path.toList) := by
    have hwritten : Written path path.toList :=
      .bare (path_ne_empty hpath) (isBlank_of_mem_path hpath) hquote
    simpa using WrittenArguments.cons (show [' '] ≠ [] by simp) (by decide) hwritten .nil
  have hblank : BlankAhead (' ' :: path.toList) := by
    simpa using hargs.blankAhead_append hend
  have hrun : (runAt root (splitPath "help")).Takes (' ' :: path.toList) [] (help root path) := by
    rw [runAt, show root.find? (splitPath "help") = some helper from hhelper]
    have h := (arguments_takes hargs hend).map (execute root helper)
    rwa [execute, haction] at h
  have hword : ∀ name ∈ splitPath "help",
      name ≠ "" ∧ ∀ x ∈ name.toList, Text.isBlank x = false := forall_names_of_all rfl
  exact ended_command_of_takes hword hblank hrun

end Path

/-- **Help knows the commands that can be run.**  Let there be a command for help under the name
`help`, and a path whose names are not empty and have no blanks in them and which does not begin
with a quotation mark.  Asking for help about it always succeeds.  The answer is that there is no
such command exactly if the path as a line of its own fails with the same text, and exactly if the
path leads nowhere.  If it leads to a command, then the answer begins with the path and a colon, and
the path as a line of its own runs that command. -/
theorem help_iff_command {root helper : Command} {path : String}
    (hhelper : root.child? "help" = some helper) (haction : helper.action = .help)
    (hpath : ∀ name ∈ splitPath path, name ≠ "" ∧ ∀ x ∈ name.toList, Text.isBlank x = false)
    (hquote : path.toList.head? ≠ some '"') :
    let missing := "Command '" ++ path ++ "' not found."
    ∃ output,
      (ended (command root)).run ("help ".toList ++ path.toList) =
        .ok output ⟨("help ".toList ++ path.toList).reverse, []⟩ ∧
      (output = missing ↔
        (ended (command root)).run path.toList = .error (.custom missing)) ∧
      (output = missing ↔ root.find? (splitPath path) = none) ∧
      ∀ target, root.find? (splitPath path) = some target →
        (∃ rest, output = path ++ ": " ++ rest) ∧
        (ended (command root)).run path.toList =
          .ok (execute root target []) ⟨path.toList.reverse, []⟩ := by
  intro missing
  have hfound : root.find? ["help"] = some helper := by
    rw [Command.find?, hhelper]
    rfl
  refine ⟨help root path, ended_command_help hpath hfound haction hquote, ?_⟩
  have hne := path_ne_empty hpath
  cases hfind : root.find? (splitPath path) with
  | none =>
    have hhelp : help root path = missing := help_of_none hne hfind
    have hrun : (ended (command root)).run path.toList = .error (.custom missing) :=
      ended_command_path_of_none hpath hfind
    exact ⟨iff_of_true hhelp hrun, iff_of_true hhelp rfl, nofun⟩
  | some target =>
    obtain ⟨rest, hhelp⟩ := help_of_some hne hfind
    have hmissing : help root path ≠ missing :=
      hhelp ▸ path_append_ne_notFound hpath rest
    have hrun := ended_command_path hpath hfind
    refine ⟨iff_of_false hmissing fun h => ?_, iff_of_false hmissing nofun, ?_⟩
    · cases hrun.symm.trans h
    · rintro _ ⟨⟩
      exact ⟨⟨rest, hhelp⟩, hrun⟩

/-- A command of the standard shell below another one, and a path that leads nowhere and has
quotation marks in its second name. -/
theorem help_iff_command_standard :
    let helper := (Command.new .help).describe "Get help of a command."
    let missing := "Command 'foo.\"bar\"' not found."
    standard.child? "help" = some helper ∧ helper.action = .help ∧
    standard.find? (splitPath "foo.bar") = some (Command.new (.name "bar")) ∧
    (∃ rest d, (ended (command standard)).run "help foo.bar".toList =
      .ok ("foo.bar" ++ ": " ++ rest) d) ∧
    (∃ d, (ended (command standard)).run "foo.bar".toList = .ok "bar" d) ∧
    standard.find? (splitPath "foo.\"bar\"") = none ∧
    (∃ d, (ended (command standard)).run "help foo.\"bar\"".toList = .ok missing d) ∧
    (ended (command standard)).run "foo.\"bar\"".toList = .error (.custom missing) := by
  intro helper missing
  have hhelper : standard.child? "help" = some helper := rfl
  have hknown : standard.find? (splitPath "foo.bar") = some (Command.new (.name "bar")) := rfl
  have hunknown : standard.find? (splitPath "foo.\"bar\"") = none := rfl
  have hpath : ∀ name ∈ splitPath "foo.bar",
      name ≠ "" ∧ ∀ x ∈ name.toList, Text.isBlank x = false := forall_names_of_all rfl
  have hpath' : ∀ name ∈ splitPath "foo.\"bar\"",
      name ≠ "" ∧ ∀ x ∈ name.toList, Text.isBlank x = false := forall_names_of_all rfl
  obtain ⟨output, hhelp, -, -, hfound⟩ := help_iff_command hhelper rfl hpath (by decide)
  obtain ⟨⟨rest, rfl⟩, hrun⟩ := hfound _ hknown
  obtain ⟨output', hhelp', hfails, hnone, -⟩ := help_iff_command hhelper rfl hpath' (by decide)
  obtain rfl := hnone.2 hunknown
  exact ⟨hhelper, rfl, hknown, ⟨rest, _, hhelp⟩, ⟨_, hrun⟩, hunknown, ⟨_, hhelp'⟩, hfails.1 rfl⟩

end Shell

end Backtrack
