import Backtrack.Shell.Line
import Backtrack.Proofs.Operator.Symbol

/-!
# Writing and reading command lines

An argument can be written in two ways, as it is or between quotation marks, and which of them are
open to it depends on its characters.  `Written` is that relation; it says nothing about how a line
is read.  `WrittenArguments` puts a gap in front of each argument.

A line is read back as the command and the arguments it was written for.  There are two things to
watch:

* what stands behind a name or an argument must not continue it.  Behind a name there is a point, a
  gap or the end of the line, and behind an argument a gap or the end.  `EndsPath` says what is
  asked of the text behind the last name, which is less;
* the gap at the end of the line is a separator that no argument follows.  It is given back, and
  it is skipped only as the gap around the whole line.
-/

set_option autoImplicit false

namespace Backtrack

namespace Shell

open Backtrack.Parser

/-! ## Blanks -/

/-- The text is empty or begins with a blank, so it continues no name and no argument. -/
def BlankAhead (r : Text) : Prop := ∀ x ∈ r.head?, Text.isBlank x = true

theorem blankAhead_of_isGap {r : Text} (h : IsGap r) : BlankAhead r :=
  fun x hx => isBlank_of_isWhite (h x (List.mem_of_mem_head? hx))

/-- A parser that refuses blanks and takes something shows where the gap in front of it ends. -/
theorem run_isWhite_of_takes {α : Type} {p : Parser α} {gap w r : Text} {v : α}
    (hrefuses : ∀ {s : Text}, BlankAhead s → p.Refuses s) (hgap : IsGap gap) (hp : p.Takes w r v) :
    Text.Run isWhite gap (w ++ r) := by
  refine ⟨hgap, fun x hx => Bool.eq_false_iff.2 fun hwhite => ?_⟩
  refine hp.not_refuses (hrefuses fun y hy => ?_)
  obtain rfl : x = y := Option.some.inj (hx.symm.trans hy)
  exact isBlank_of_isWhite hwhite

/-! ## Paths -/

/-- The names behind the first one, each with the point in front of it. -/
def furtherNames (names : List String) : Text := names.flatMap fun name => '.' :: name.toList

/-- The part of a path that is left to be split is made of the rest of the name that has been begun
and of the other names. -/
theorem splitPath_go_eq (name s : Text) :
    ∃ first names, splitPath.go name s = first :: names ∧
      name.reverse ++ s = first.toList ++ furtherNames names := by
  fun_induction splitPath.go name s with
  | case1 name => exact ⟨_, [], rfl, by simp [furtherNames]⟩
  | case2 name s ih =>
    obtain ⟨first, names, hgo, hs⟩ := ih
    rw [List.reverse_nil, List.nil_append] at hs
    exact ⟨_, first :: names, by rw [hgo], by simp [furtherNames, hs]⟩
  | case3 name x s hx ih =>
    obtain ⟨first, names, hgo, hs⟩ := ih
    exact ⟨first, names, hgo, by simpa using hs⟩

/-- **A path is made of its names** and of a point in front of each but the first. -/
theorem exists_splitPath (path : String) :
    ∃ first names, splitPath path = first :: names ∧
      path.toList = first.toList ++ furtherNames names :=
  splitPath_go_eq [] path.toList

theorem not_mem_of_mem_splitPath_go {name s : Text} (hname : '.' ∉ name) :
    ∀ n ∈ splitPath.go name s, '.' ∉ n.toList := by
  fun_induction splitPath.go name s with
  | case1 name => simpa using hname
  | case2 name s ih =>
    intro n hn
    rcases List.mem_cons.1 hn with rfl | hn
    · simpa using hname
    · exact ih (by simp) n hn
  | case3 name x s hx ih => exact ih (by simp [hname, Ne.symm hx])

/-- A name that a path can be made of. -/
structure IsName (name : String) : Prop where
  /-- It is not empty. -/
  ne_nil : name.toList ≠ []
  /-- No point or blank stands in it. -/
  plain : ∀ x ∈ name.toList, (x != '.' && !Text.isBlank x) = true

/-- The text is empty or begins with a point or a blank, so it begins with no name and continues
none. -/
def NoNameAhead (r : Text) : Prop := ∀ x ∈ r.head?, (x != '.' && !Text.isBlank x) = false

/-- The text does not continue a path that stands in front of it. -/
structure EndsPath (r : Text) : Prop where
  /-- It does not continue the last name. -/
  stop : NoNameAhead r
  /-- It does not begin with a point and a further name. -/
  point : ∀ {t : Text}, r = '.' :: t → NoNameAhead t

theorem BlankAhead.endsPath {r : Text} (h : BlankAhead r) : EndsPath r := by
  refine ⟨fun x hx => by simp [h x hx], ?_⟩
  rintro t rfl
  cases h '.' rfl

theorem segment_refuses {s : Text} (h : NoNameAhead s) : segment.Refuses s :=
  (many1_satisfy_refuses h).map _

theorem commandPath_refuses {s : Text} (h : BlankAhead s) : commandPath.Refuses s :=
  (segment_refuses h.endsPath.stop).separatedBy1 _

/-- What stands behind a name does not continue it. -/
theorem run_name {name : String} {r : Text} (hname : IsName name) (hr : EndsPath r)
    (names : List String) :
    Text.Run (fun x => x != '.' && !Text.isBlank x) name.toList (furtherNames names ++ r) := by
  refine ⟨hname.plain, fun x hx => ?_⟩
  cases names with
  | nil => exact hr.stop x hx
  | cons n names =>
    obtain rfl : '.' = x := Option.some.inj hx
    rfl

theorem segment_takes {name : String} {names : List String} {r : Text} (hname : IsName name)
    (hr : EndsPath r) : segment.Takes name.toList (furtherNames names ++ r) name := by
  have hrun := run_name hname hr names
  have h := (many1_satisfy_takes hname.ne_nil hrun).map String.ofList
  rwa [String.ofList_toList] at h

theorem point_takes (r : Text) : (char '.').Takes ['.'] r '.' := satisfy_takes rfl r

theorem EndsPath.refuses {r : Text} (hr : EndsPath r) : (right (char '.') segment).Refuses r := by
  by_cases hpoint : r.head? = some '.'
  · obtain ⟨t, rfl⟩ := List.head?_eq_some_iff.1 hpoint
    exact (point_takes t).right_refuses (segment_refuses (hr.point rfl))
  · refine Refuses.right (satisfy_refuses fun x hx => beq_eq_false_iff_ne.2 ?_) segment
    rintro rfl
    exact hpoint hx

/-- The names behind the first one are read up to where the path ends. -/
theorem furtherNames_takes {names : List String} {r : Text} (hnames : ∀ name ∈ names, IsName name)
    (hr : EndsPath r) :
    Takes (separatedTail segment (char '.')) (furtherNames names) r names := by
  induction names with
  | nil => exact separatedTail_stop hr.refuses
  | cons name names ih =>
    have hrest := ih fun n hn => hnames n (List.mem_cons_of_mem name hn)
    exact separatedTail_step (point_takes _) (by simp) (segment_takes (hnames name (by simp)) hr)
      hrest

theorem commandPath_takes_names {name : String} {names : List String} {r : Text}
    (hnames : ∀ n ∈ name :: names, IsName n) (hr : EndsPath r) :
    commandPath.Takes (name.toList ++ furtherNames names) r (name :: names) := by
  have hrest := furtherNames_takes (fun n hn => hnames n (List.mem_cons_of_mem name hn)) hr
  exact (segment_takes (hnames name (by simp)) hr).separatedBy1 hrest

/-- **A path is read as its names** in front of a blank or of the end. -/
theorem commandPath_takes {path : String} {r : Text}
    (hpath : ∀ name ∈ splitPath path, name ≠ "" ∧ ∀ x ∈ name.toList, Text.isBlank x = false)
    (hr : BlankAhead r) : commandPath.Takes path.toList r (splitPath path) := by
  have hnames : ∀ name ∈ splitPath path, IsName name := by
    intro name hname
    obtain ⟨hne, hblank⟩ := hpath name hname
    have hpoint : '.' ∉ name.toList := not_mem_of_mem_splitPath_go (by simp) name hname
    refine ⟨by simpa using hne, fun x hx => ?_⟩
    have hx' : x ≠ '.' := fun h => hpoint (h ▸ hx)
    simp [hx', hblank x hx]
  obtain ⟨first, names, hsplit, htext⟩ := exists_splitPath path
  rw [hsplit] at hnames ⊢
  rw [htext]
  exact commandPath_takes_names hnames hr.endsPath

/-! ## Arguments -/

/-- The ways to write an argument. -/
inductive Written : String → Text → Prop
  /-- Between quotation marks, if it has none in it. -/
  | quoted {arg : String} (h : '"' ∉ arg.toList) : Written arg ('"' :: (arg.toList ++ ['"']))
  /-- As it is, if it is not empty, has no blanks in it and does not look like a quoted one. -/
  | bare {arg : String} (hne : arg ≠ "") (hblank : ∀ x ∈ arg.toList, Text.isBlank x = false)
      (hquote : arg.toList.head? ≠ some '"') : Written arg arg.toList

/-- Written arguments with a gap in front of each. -/
inductive WrittenArguments : List String → Text → Prop
  /-- No argument. -/
  | nil : WrittenArguments [] []
  /-- An argument and the ones behind it. -/
  | cons {gap w t : Text} {arg : String} {args : List String} (hne : gap ≠ []) (hgap : IsGap gap)
      (hw : Written arg w) (ht : WrittenArguments args t) :
      WrittenArguments (arg :: args) (gap ++ (w ++ t))

theorem quotedWord_refuses {s : Text} (h : s.head? ≠ some '"') : quotedWord.Refuses s := by
  refine Refuses.bind _ (satisfy_refuses fun x hx => beq_eq_false_iff_ne.2 ?_)
  rintro rfl
  exact h hx

theorem quotedWord_takes {arg : String} (h : '"' ∉ arg.toList) (r : Text) :
    quotedWord.Takes ('"' :: (arg.toList ++ ['"'])) r arg := by
  have hinside : Text.Run (fun x => !(['"'] : Text).contains x) arg.toList ('"' :: r) := by
    refine ⟨fun x hx => ?_, fun x hx => ?_⟩
    · have hx' : x ≠ '"' := fun hq => h (hq ▸ hx)
      simp [hx']
    · obtain rfl : '"' = x := Option.some.inj hx
      rfl
  have harg := (many_satisfy_takes hinside).map String.ofList
  rw [String.ofList_toList] at harg
  have hquote : ∀ s, (char '"').Takes ['"'] s '"' := satisfy_takes rfl
  exact Takes.delimitedBy (hquote _) harg (hquote r)

theorem word_refuses {s : Text} (h : BlankAhead s) : word.Refuses s :=
  (many1_satisfy_refuses fun x hx => by simp [h x hx]).map _

theorem word_takes {arg : String} {r : Text} (hne : arg ≠ "")
    (hblank : ∀ x ∈ arg.toList, Text.isBlank x = false) (hr : BlankAhead r) :
    word.Takes arg.toList r arg := by
  have hrun : Text.Run (fun x => !Text.isBlank x) arg.toList r :=
    ⟨fun x hx => by simp [hblank x hx], fun x hx => by simp [hr x hx]⟩
  have h := (many1_satisfy_takes (by simpa using hne) hrun).map String.ofList
  rwa [String.ofList_toList] at h

theorem argument_refuses {s : Text} (h : BlankAhead s) : argument.Refuses s := by
  have hquote : s.head? ≠ some '"' := fun hs => by cases h _ hs
  exact (quotedWord_refuses hquote).firstOf ((word_refuses h).firstOf (firstOf_nil_refuses s))

/-- **An argument is read as it was written** in front of a blank or of the end. -/
theorem argument_takes {arg : String} {w r : Text} (hw : Written arg w) (hr : BlankAhead r) :
    argument.Takes w r arg := by
  cases hw with
  | quoted h => exact (quotedWord_takes h r).firstOf
  | bare hne hblank hquote =>
    have hno : quotedWord.Refuses (arg.toList ++ r) := by
      refine quotedWord_refuses fun hs => hquote ?_
      rw [List.head?_append, Option.or_eq_some_iff] at hs
      exact hs.resolve_right fun h => hne (by simpa using h.1)
    exact hno.firstOf_takes (word_takes hne hblank hr).firstOf

/-- What stands behind an argument or in front of all of them is a blank or the end. -/
theorem WrittenArguments.blankAhead {args : List String} {t after : Text}
    (h : WrittenArguments args t) (hafter : BlankAhead after) : BlankAhead (t ++ after) := by
  cases h with
  | nil => exact hafter
  | @cons gap w t arg args hne hgap hw ht =>
    intro x hx
    rw [List.append_assoc, List.head?_append, Option.mem_def, Option.or_eq_some_iff] at hx
    exact blankAhead_of_isGap hgap x (hx.resolve_right fun h => hne (by simpa using h.1))

theorem WrittenArguments.blankAhead_append {args : List String} {t after : Text}
    (h : WrittenArguments args t) (hafter : IsGap after) : BlankAhead (t ++ after) :=
  h.blankAhead (blankAhead_of_isGap hafter)

/-- A gap is taken as a whole in front of an argument. -/
theorem gap_takes {gap w r : Text} {arg : String} (hne : gap ≠ []) (hgap : IsGap gap)
    (hw : argument.Takes w r arg) : Takes (many1 white) gap (w ++ r) gap :=
  many1_satisfy_takes hne (run_isWhite_of_takes argument_refuses hgap hw)

/-- The text does not continue the arguments that stand in front of it. -/
structure EndsArguments (after : Text) : Prop where
  /-- It does not continue the last argument. -/
  blank : BlankAhead after
  /-- No argument stands behind the gap with which it begins. -/
  refuses : (right (many1 white) argument).Refuses after

/-- Arguments end at a gap behind which there is nothing, or a blank that is not skipped. -/
theorem endsArguments_of_isGap {gap r : Text} (hgap : IsGap gap) (hr : BlankAhead r)
    (hstop : ∀ x ∈ r.head?, isWhite x = false) : EndsArguments (gap ++ r) := by
  have hblank : BlankAhead (gap ++ r) := by
    intro x hx
    rw [List.head?_append, Option.mem_def, Option.or_eq_some_iff] at hx
    rcases hx with hx | ⟨-, hx⟩
    · exact blankAhead_of_isGap hgap x hx
    · exact hr x hx
  refine ⟨hblank, ?_⟩
  by_cases hne : gap = []
  · subst hne
    exact Refuses.right (many1_satisfy_refuses hstop) argument
  · exact (many1_satisfy_takes hne ⟨hgap, hstop⟩).right_refuses (argument_refuses hr)

/-- The arguments behind the first one are read, and what ends them is not. -/
theorem WrittenArguments.tail_takes {args : List String} {t after : Text}
    (h : WrittenArguments args t) (hafter : EndsArguments after) :
    Takes (separatedTail argument (many1 white)) t after args := by
  induction h with
  | nil => exact separatedTail_stop hafter.refuses
  | cons hne hgap hw ht ih =>
    have harg := argument_takes hw (ht.blankAhead hafter.blank)
    exact separatedTail_step (gap_takes hne hgap harg) hne harg ih

/-- **All arguments are read**, and what ends them is not. -/
theorem arguments_takes_of_ends {args : List String} {t after : Text}
    (h : WrittenArguments args t) (hafter : EndsArguments after) :
    arguments.Takes t after args := by
  cases h with
  | nil => exact hafter.refuses.right_separatedBy1.withDefault []
  | cons hne hgap hw ht =>
    have harg := argument_takes hw (ht.blankAhead hafter.blank)
    have hall := harg.separatedBy1 (ht.tail_takes hafter)
    have hfirst := gap_takes hne hgap harg
    rw [← List.append_assoc] at hfirst
    exact (hfirst.right hall).withDefault []

/-- The gap at the end of the line is not read with the arguments. -/
theorem arguments_takes {args : List String} {t after : Text} (h : WrittenArguments args t)
    (hafter : IsGap after) : arguments.Takes t after args := by
  refine arguments_takes_of_ends h ?_
  simpa using endsArguments_of_isGap (r := []) hafter (by simp [BlankAhead]) (by simp)

/-! ## Lines -/

/-- **A command line that is written is read back.**  For a path to a command, whose names are not
empty and have no blanks in them, and for arguments that are written in any of the ways open to
them, the line runs that command with those arguments, whatever gaps there are around it, and
nothing of it is left.  The names of a path are what stands between its points, so there is no point
in a name, and the empty path is out because its only name is empty. -/
theorem ended_command_run {root command : Command} {path : String} {args : List String}
    {before written after : Text}
    (hpath : ∀ name ∈ splitPath path, name ≠ "" ∧ ∀ x ∈ name.toList, Text.isBlank x = false)
    (hfind : root.find? (splitPath path) = some command)
    (hargs : WrittenArguments args written) (hbefore : IsGap before) (hafter : IsGap after) :
    let line := before ++ (path.toList ++ (written ++ after))
    (ended (Shell.command root)).run line =
      .ok (execute root command args) ⟨line.reverse, []⟩ := by
  intro line
  have hnames := commandPath_takes hpath (hargs.blankAhead_append hafter)
  have hrun : (runAt root (splitPath path)).Takes written after (execute root command args) := by
    rw [runAt, hfind]
    exact (arguments_takes hargs hafter).map _
  have hbefore' : Text.Run isWhite before (path.toList ++ written ++ (after ++ [])) := by
    simpa using run_isWhite_of_takes commandPath_refuses hbefore hnames
  have hline : (Shell.command root).Takes (before ++ (path.toList ++ written ++ after)) []
      (execute root command args) := by
    refine Takes.spaced hbefore' ?_ ⟨hafter, by simp⟩
    rw [List.append_nil]
    exact hnames.bind hrun
  have h := hline.ended []
  simpa [line, Parser.run, Cursor.start] using h

/-- A quoted argument with a blank in it, a bare one with a quotation mark in it and an empty one,
for a command below another one. -/
theorem ended_command_run_mixedArguments :
    let echo := Command.new .echo
    let say := (Command.new (.name "say")).addChild "all" echo
    let root := (Command.new (.name "root")).addChild "say" say
    let line := "\tsay.all  \"a b\" c\"d\n\"\" ".toList
    (∀ name ∈ splitPath "say.all", name ≠ "" ∧ ∀ x ∈ name.toList, Text.isBlank x = false) ∧
    root.find? (splitPath "say.all") = some echo ∧
    WrittenArguments ["a b", "c\"d", ""] "  \"a b\" c\"d\n\"\"".toList ∧
    (ended (Shell.command root)).run line = .ok "a b c\"d " ⟨line.reverse, []⟩ := by
  intro echo say root line
  have hpath : ∀ name ∈ splitPath "say.all",
      name ≠ "" ∧ ∀ x ∈ name.toList, Text.isBlank x = false := by
    have hsplit : splitPath "say.all" = ["say", "all"] := rfl
    rw [hsplit, List.forall_mem_cons, List.forall_mem_singleton]
    exact ⟨⟨by decide, Text.forall_mem_of_all (by decide)⟩,
      ⟨by decide, Text.forall_mem_of_all (by decide)⟩⟩
  have hfind : root.find? (splitPath "say.all") = some echo := rfl
  have hargs : WrittenArguments ["a b", "c\"d", ""] "  \"a b\" c\"d\n\"\"".toList :=
    .cons (show [' ', ' '] ≠ [] by simp) (by decide) (.quoted (by decide))
      (.cons (show [' '] ≠ [] by simp) (by decide)
        (.bare (by decide) (Text.forall_mem_of_all (by decide)) (by decide))
        (.cons (show ['\n'] ≠ [] by simp) (by decide) (.quoted (by decide)) .nil))
  have hbefore : IsGap ['\t'] := by decide
  have hafter : IsGap [' '] := by decide
  exact ⟨hpath, hfind, hargs, ended_command_run hpath hfind hargs hbefore hafter⟩

end Shell

end Backtrack
