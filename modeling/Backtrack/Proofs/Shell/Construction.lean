import Backtrack.Parser.Lookahead
import Backtrack.Proofs.Encoding
import Backtrack.Shell.Line

/-!
# A command tree forgets how it was built

A command tree is built by adding one command after another, at every node in some order, and a
command added later under the same name takes the place of the earlier one.  `Construction` is the
record of that, and what it comes to is the tree `Construction.build`.

* In a tree, one command is found below another along the rest of the path (`find?_append`), and
  adding a command under one name does not change what is found under another.
* `Construction.last?` is the command that was added last under a name, and `find?_build` says that
  this is what is found there.
* Adding a command keeps the names in order (`InOrder.insertChild`), so below every node of a tree
  that was built each name stands once, in the order of its bytes.
* Trees that are in order are the same if the same is found in them along all paths
  (`Command.eq_of_find?`).  So two constructions build the same tree exactly if they agree on what
  comes last under each name at each node (`build_eq_iff`), and then there is nothing by which the
  two shells could be told apart.
-/

set_option autoImplicit false

namespace Backtrack

namespace Shell

namespace Command

variable {name other : String} {command d : Command} {cs ds : List (String × Command)}

/-! ## Rows of commands -/

/-- The names of a row of commands are in strictly increasing order. -/
def InOrder (cs : List (String × Command)) : Prop := cs.Pairwise fun a b => a.1 < b.1

/-- An entry of a row is found under its own name, or the search goes on behind it. -/
theorem lookup_entry (name other : String) (command : Command) (cs : List (String × Command)) :
    ((name, command) :: cs).lookup other = if other = name then some command else cs.lookup other := by
  rw [List.lookup_cons]
  by_cases h : other = name
  · rw [if_pos h, h, beq_self_eq_true]
  · rw [if_neg h, beq_false_of_ne h]

/-- **What is added under a name is found there**, and nothing changes under other names. -/
theorem lookup_insertChild (name other : String) (command : Command)
    (cs : List (String × Command)) :
    (insertChild name command cs).lookup other =
      if other = name then some command else cs.lookup other := by
  induction cs with
  | nil => rw [insertChild, lookup_entry]
  | cons entry cs ih =>
    obtain ⟨n, c⟩ := entry
    rw [insertChild]
    split
    · rw [lookup_entry]
    · split
      · rename_i hname
        rw [lookup_entry, lookup_entry, hname]
        split <;> rfl
      · rename_i hname
        rw [lookup_entry, lookup_entry, ih]
        by_cases hother : other = n
        · have hne : other ≠ name := fun h => hname (h.symm.trans hother)
          simp only [if_pos hother, if_neg hne]
        · simp only [if_neg hother]

theorem mem_insertChild {entry : String × Command} (h : entry ∈ insertChild name command cs) :
    entry = (name, command) ∨ entry ∈ cs := by
  induction cs with
  | nil => exact .inl (List.mem_singleton.1 h)
  | cons next cs ih =>
    obtain ⟨n, c⟩ := next
    rw [insertChild] at h
    split at h
    · exact List.mem_cons.1 h
    · split at h
      · exact (List.mem_cons.1 h).imp_right (List.mem_cons_of_mem _)
      · rcases List.mem_cons.1 h with rfl | h
        · exact .inr List.mem_cons_self
        · exact (ih h).imp_right (List.mem_cons_of_mem _)

/-- **Adding a command keeps the names in order.** -/
theorem InOrder.insertChild (h : InOrder cs) (name : String) (command : Command) :
    InOrder (insertChild name command cs) := by
  induction cs with
  | nil => exact List.pairwise_singleton _ _
  | cons next cs ih =>
    obtain ⟨n, c⟩ := next
    obtain ⟨hnext, hcs⟩ := List.pairwise_cons.1 h
    rw [Command.insertChild]
    split
    · rename_i hlt
      refine List.pairwise_cons.2 ⟨fun entry hentry => ?_, h⟩
      rcases List.mem_cons.1 hentry with rfl | hentry
      · exact hlt
      · exact String.lt_trans hlt (hnext entry hentry)
    · split
      · rename_i hname
        exact List.pairwise_cons.2 ⟨fun entry hentry => hname ▸ hnext entry hentry, hcs⟩
      · rename_i hle hname
        refine List.pairwise_cons.2 ⟨fun entry hentry => ?_, ih hcs⟩
        rcases mem_insertChild hentry with rfl | hentry
        · exact Std.lt_of_le_of_ne (String.not_lt.1 hle) (Ne.symm hname)
        · exact hnext entry hentry

/-- In a row that is in order no entry hides another. -/
theorem InOrder.mem_iff (h : InOrder cs) : (name, d) ∈ cs ↔ cs.lookup name = some d := by
  rw [List.lookup_eq_some_iff]
  constructor
  · intro hmem
    obtain ⟨before, after, rfl⟩ := List.append_of_mem hmem
    refine ⟨before, after, rfl, fun entry hentry => ?_⟩
    have hlt := (List.pairwise_append.1 h).2.2 entry hentry _ List.mem_cons_self
    exact bne_iff_ne.2 fun hname => String.lt_irrefl name (hname ▸ hlt)
  · rintro ⟨before, after, rfl, -⟩
    exact List.mem_append_right _ List.mem_cons_self

/-- **Rows in order are the same if the same is found in them.** -/
theorem InOrder.eq_of_lookup (hcs : InOrder cs) (hds : InOrder ds)
    (h : ∀ name, cs.lookup name = ds.lookup name) : cs = ds := by
  have hirrefl : ∀ {a b : String × Command}, a.1 < b.1 → a ≠ b := by
    rintro a b hlt rfl
    exact String.lt_irrefl _ hlt
  have hperm : cs.Perm ds := by
    refine (List.perm_ext_iff_of_nodup (hcs.imp hirrefl) (hds.imp hirrefl)).2 fun ⟨name, d⟩ => ?_
    rw [hcs.mem_iff, hds.mem_iff, h]
  refine hperm.eq_of_pairwise (fun a b _ _ hab hba => ?_) hcs hds
  exact absurd hba (String.lt_asymm hab)

/-! ## Trees of commands -/

variable {c root root' node added : Command}

theorem find?_append (c : Command) (p q : List String) :
    c.find? (p ++ q) = (c.find? p).bind fun d => d.find? q := by
  induction p generalizing c with
  | nil => rfl
  | cons name p ih =>
    rw [List.cons_append, find?, find?]
    cases c.child? name with
    | none => rfl
    | some d => exact ih d

theorem child?_addChild (c : Command) (name : String) (command : Command) (other : String) :
    (c.addChild name command).child? other =
      if other = name then some command else c.child? other :=
  lookup_insertChild name other command c.children

/-- **Adding under one name changes no lookup under another**, at whatever node it is done. -/
theorem find?_of_addChild {path : List String} (hroot : root.find? path = some node)
    (hroot' : root'.find? path = some (node.addChild name added)) (hother : other ≠ name)
    (rest : List String) :
    root'.find? (path ++ other :: rest) = root.find? (path ++ other :: rest) := by
  rw [find?_append, find?_append, hroot, hroot', Option.bind_some, Option.bind_some, find?, find?,
    child?_addChild, if_neg hother]

/-- Below every command of the tree the names are in order. -/
def Ordered (root : Command) : Prop :=
  ∀ (path : List String) (d : Command), root.find? path = some d → InOrder d.children

theorem Ordered.child (h : root.Ordered) (hd : root.child? name = some d) : d.Ordered := by
  intro path e he
  refine h (name :: path) e ?_
  rw [find?, hd]
  exact he

theorem sizeOf_lt_of_child? (h : c.child? name = some d) : sizeOf d < sizeOf c := by
  obtain ⟨action, description, cs⟩ := c
  obtain ⟨before, after, hcs, -⟩ := List.lookup_eq_some_iff.1 h
  have hmem : (name, d) ∈ cs := by
    have : cs = before ++ (name, d) :: after := hcs
    simp [this]
  have hlt := List.sizeOf_lt_of_mem hmem
  rw [Prod.mk.sizeOf_spec] at hlt
  rw [mk.sizeOf_spec]
  omega

/-- What there is to a command besides the commands below it. -/
def label (c : Command) : Action × Option String := (c.action, c.description)

/-- **A tree in order is known by what is found in it.** -/
theorem eq_of_find? (hc : c.Ordered) (hd : d.Ordered)
    (h : ∀ path, (c.find? path).map label = (d.find? path).map label) : c = d := by
  induction hn : sizeOf c using Nat.strongRecOn generalizing c d with
  | ind n ih =>
  have hchild : ∀ name, c.child? name = d.child? name := by
    intro name
    have hpaths : ∀ path, ((c.child? name).bind fun e => e.find? path).map label =
        ((d.child? name).bind fun e => e.find? path).map label := fun path => h (name :: path)
    rcases hcn : c.child? name with _ | e <;> rcases hdn : d.child? name with _ | e'
    · rfl
    · simpa [hcn, hdn, find?] using hpaths []
    · simpa [hcn, hdn, find?] using hpaths []
    · simp only [hcn, hdn, Option.bind_some] at hpaths
      have hlt : sizeOf e < n := hn ▸ sizeOf_lt_of_child? hcn
      exact congrArg some (ih (sizeOf e) hlt (hc.child hcn) (hd.child hdn) hpaths rfl)
  have hchildren : c.children = d.children :=
    InOrder.eq_of_lookup (hc [] c rfl) (hd [] d rfl) hchild
  have hlabel : c.label = d.label := Option.some.inj (h [])
  obtain ⟨action, description, cs⟩ := c
  obtain ⟨action', description', ds⟩ := d
  obtain ⟨rfl, rfl⟩ := Prod.mk.inj hlabel
  exact congrArg _ hchildren

theorem mem_childNames_iff : name ∈ c.childNames ↔ (c.child? name).isSome = true := by
  rw [childNames, child?, List.mem_map, List.lookup_isSome_iff]
  simp only [beq_iff_eq, eq_comm (a := name)]

end Command

/-! ## Constructions -/

/-- The record of how a command was built.  The last step is the outermost. -/
inductive Construction where
  /-- A new command, with nothing below it and nothing known about it. -/
  | new (action : Action)
  /-- The command is given a description. -/
  | describe (c : Construction) (text : String)
  /-- Another command is put below it. -/
  | child (c : Construction) (name : String) (command : Construction)

namespace Construction

/-- The command tree that comes of a construction. -/
def build : Construction → Command
  | new action => .new action
  | describe c text => c.build.describe text
  | child c name command => c.build.addChild name command.build

/-- What the command does, and the description it was given last. -/
def label : Construction → Action × Option String
  | new action => (action, none)
  | describe c text => (c.label.1, some text)
  | child c _ _ => c.label

/-- The command that was added last under a name. -/
def last? : Construction → String → Option Construction
  | new _, _ => none
  | describe c _, name => c.last? name
  | child c n command, name => if name = n then some command else c.last? name

/-- The command at the end of a path along which each step goes to what was added last. -/
def node? (c : Construction) : List String → Option Construction
  | [] => some c
  | name :: path => (c.last? name).bind fun d => d.node? path

/-- The two constructions agree, at every node, on what was added last under each name. -/
def Agree (a b : Construction) : Prop :=
  ∀ path, (a.node? path).map label = (b.node? path).map label

theorem label_build (c : Construction) : c.build.label = c.label := by
  induction c with
  | new action => rfl
  | describe c text ih =>
    rw [label, ← ih]
    rfl
  | child c name command ih _ =>
    rw [label, ← ih]
    rfl

/-- **The command below is the one that was added last.** -/
theorem child?_build (c : Construction) (name : String) :
    c.build.child? name = (c.last? name).map build := by
  induction c with
  | new action => rfl
  | describe c text ih => exact ih
  | child c n command ih _ =>
    rw [build, Command.child?_addChild, last?, ih]
    split <;> rfl

theorem find?_build (c : Construction) (path : List String) :
    c.build.find? path = (c.node? path).map build := by
  induction path generalizing c with
  | nil => rfl
  | cons name path ih =>
    rw [Command.find?, node?, child?_build]
    cases c.last? name with
    | none => rfl
    | some d => exact ih d

theorem inOrder_build (c : Construction) : Command.InOrder c.build.children := by
  induction c with
  | new action => exact List.Pairwise.nil
  | describe c text ih => exact ih
  | child c name command ih _ => exact ih.insertChild name command.build

theorem ordered_build (c : Construction) : c.build.Ordered := by
  intro path d hd
  rw [find?_build] at hd
  obtain ⟨node, -, rfl⟩ := Option.map_eq_some_iff.1 hd
  exact inOrder_build node

theorem map_label_find?_build (c : Construction) (path : List String) :
    (c.build.find? path).map Command.label = (c.node? path).map label := by
  rw [find?_build, Option.map_map]
  exact congrArg (Option.map · _) (funext label_build)

/-- **Constructions that agree build the same tree**, and others do not. -/
theorem build_eq_iff {a b : Construction} : a.build = b.build ↔ a.Agree b := by
  constructor
  · intro h path
    rw [← map_label_find?_build, ← map_label_find?_build, h]
  · intro h
    refine Command.eq_of_find? a.ordered_build b.ordered_build fun path => ?_
    rw [map_label_find?_build, map_label_find?_build, h path]

/-- Agreement can be checked node by node. -/
theorem agree_of_last? {a b : Construction} (hlabel : a.label = b.label)
    (hlast : ∀ name, Option.Rel Agree (a.last? name) (b.last? name)) : a.Agree b := by
  intro path
  cases path with
  | nil => exact congrArg some hlabel
  | cons name path =>
    have h := hlast name
    rw [node?, node?]
    generalize a.last? name = o, b.last? name = o' at h ⊢
    cases h with
    | some h => exact h path
    | none => rfl

end Construction

/-! ## What can be observed -/

/-- The names along a path as it is given to the help; the empty path is that of the root. -/
def helpPath (path : String) : List String := if path = "" then [] else splitPath path

/-- The help about a command names it, says what is known about it and lists what is below it. -/
theorem help_of_find? {root target : Command} {path : String}
    (h : root.find? (helpPath path) = some target) :
    help root path = (if path = "" then "[root]" else path) ++ ": " ++
      target.description.getD "[no description]" ++
      String.join (target.childNames.map fun name => "\n * " ++ name) := by
  rw [help]
  simp only [String.isEmpty_iff]
  by_cases hpath : path = ""
  · rw [helpPath, if_pos hpath] at h
    obtain rfl := Option.some.inj h
    simp only [if_pos hpath]
  · rw [helpPath, if_neg hpath] at h
    simp only [if_neg hpath, h]

/-- The help about a command lists each name below it once, in the order of the bytes. -/
theorem Construction.help_build {c node : Construction} {path : String}
    (h : c.node? (helpPath path) = some node) :
    ∃ names : List String,
      help c.build path = (if path = "" then "[root]" else path) ++ ": " ++
        node.label.2.getD "[no description]" ++
        String.join (names.map fun name => "\n * " ++ name) ∧
      names.Pairwise (fun a b => Text.bytes a.toList < Text.bytes b.toList) ∧
      ∀ name, name ∈ names ↔ (node.last? name).isSome = true := by
  have hfind : c.build.find? (helpPath path) = some node.build := by
    rw [find?_build, h]
    rfl
  have hdescription : node.build.description = node.label.2 := congrArg Prod.snd node.label_build
  refine ⟨node.build.childNames, ?_, ?_, fun name => ?_⟩
  · rw [help_of_find? hfind, hdescription]
  · exact List.pairwise_map.2 (node.inOrder_build.imp Text.bytes_lt_of_lt)
  · rw [Command.mem_childNames_iff, child?_build, Option.isSome_map]

/-- Nothing that is done with two shells tells them apart. -/
structure SameOutcomes (root root' : Command) : Prop where
  /-- The same is found along every path. -/
  find?_eq : ∀ path, root.find? path = root'.find? path
  /-- Every command that is found prints the same, on all arguments. -/
  execute_eq : ∀ path args, (root.find? path).map (execute root · args) =
    (root'.find? path).map (execute root' · args)
  /-- Every command line has the same outcome, whether or not all of it has to be read. -/
  command_eq : ∀ line, (command root).run line = (command root').run line ∧
    (Parser.ended (command root)).run line = (Parser.ended (command root')).run line

/-- **A command tree forgets how it was built.**  Along a path the command is found that was added
last under the last name of the path, if there is one; adding under one name changes no lookup under
another; a path can be cut in two, and its rest followed from where its beginning leads; and the help
about a command lists each name below it once, in the order of the bytes.  Constructions build the
same tree exactly if they agree, at every node, on what was added last under each name, and then all
lookups, all commands and all command lines have the same outcome. -/
theorem construction_forgotten (c : Construction) :
    (∀ path name, c.build.find? (path ++ [name]) =
      ((c.node? path).bind fun d => d.last? name).map Construction.build) ∧
    (∀ (root root' node added : Command) (path rest : List String) (name other : String),
      root.find? path = some node → root'.find? path = some (node.addChild name added) →
      other ≠ name → root'.find? (path ++ other :: rest) = root.find? (path ++ other :: rest)) ∧
    (∀ (root : Command) (p q : List String),
      root.find? (p ++ q) = (root.find? p).bind fun d => d.find? q) ∧
    (∀ path node, c.node? (helpPath path) = some node → ∃ names : List String,
      help c.build path = (if path = "" then "[root]" else path) ++ ": " ++
        node.label.2.getD "[no description]" ++
        String.join (names.map fun name => "\n * " ++ name) ∧
      names.Pairwise (fun a b => Text.bytes a.toList < Text.bytes b.toList) ∧
      ∀ name, name ∈ names ↔ (node.last? name).isSome = true) ∧
    ∀ c' : Construction, (c.build = c'.build ↔ c.Agree c') ∧
      (c.Agree c' → SameOutcomes c.build c'.build) := by
  refine ⟨fun path name => ?_, fun _ _ _ _ _ rest _ _ hroot hroot' hother => ?_,
    Command.find?_append, fun path node => Construction.help_build,
    fun c' => ⟨Construction.build_eq_iff, fun h => ?_⟩⟩
  · rw [Command.find?_append, Construction.find?_build]
    cases c.node? path with
    | none => rfl
    | some d =>
      rw [Option.map_some, Option.bind_some, Option.bind_some, ← Construction.child?_build,
        Command.find?]
      exact Option.bind_fun_some _
  · exact Command.find?_of_addChild hroot hroot' hother rest
  · rw [Construction.build_eq_iff.2 h]
    exact ⟨fun _ => rfl, fun _ _ => rfl, fun _ => ⟨rfl, rfl⟩⟩

/-- A command with two others below it, added in the order of their names or the other way. -/
def Construction.pairBelow (inOrder : Bool) : Construction :=
  if inOrder then ((new .help).child "a" (new .echo)).child "日" (new (.name "day"))
  else ((new .help).child "日" (new (.name "day"))).child "a" (new .echo)

/-- A tree in which a command is replaced after another one has been added. -/
def Construction.replaced : Construction :=
  (((new (.name "root")).child "é" (new .echo)).child "z" (pairBelow false)).child "é"
    ((new (.name "e")).describe "An accent.")

/-- The same tree without the detour, its commands added in another order. -/
def Construction.direct : Construction :=
  ((new (.name "root")).child "é" ((new (.name "e")).describe "An accent.")).child "z"
    (pairBelow true)

theorem Construction.agree_pairBelow : (pairBelow false).Agree (pairBelow true) := by
  refine agree_of_last? rfl fun name => ?_
  simp only [pairBelow, last?, Bool.false_eq_true, if_false, if_true]
  by_cases ha : name = "a"
  · subst ha
    exact .some fun _ => rfl
  · by_cases hday : name = "日"
    · subst hday
      exact .some fun _ => rfl
    · simp only [if_neg ha, if_neg hday]
      exact .none

theorem Construction.agree_replaced_direct : replaced.Agree direct := by
  refine agree_of_last? rfl fun name => ?_
  simp only [replaced, direct, last?]
  by_cases haccent : name = "é"
  · subst haccent
    exact .some fun _ => rfl
  · by_cases hz : name = "z"
    · subst hz
      exact .some agree_pairBelow
    · simp only [if_neg haccent, if_neg hz]
      exact .none

/-- Two constructions with a replaced command and with names of one, two and three bytes, of which
the letter stands in front. -/
theorem construction_forgotten_replaced :
    Construction.replaced.Agree Construction.direct ∧
    SameOutcomes Construction.replaced.build Construction.direct.build ∧
    (Construction.replaced.child "日" (.new .echo)).build.find? ["z", "a"] =
      Construction.replaced.build.find? ["z", "a"] ∧
    ∃ names : List String,
      help Construction.replaced.build "z" = "z: [no description]" ++
        String.join (names.map fun name => "\n * " ++ name) ∧
      names.Pairwise (fun a b => Text.bytes a.toList < Text.bytes b.toList) ∧
      ∀ name, name ∈ names ↔ ((Construction.pairBelow false).last? name).isSome = true := by
  have hagree := Construction.agree_replaced_direct
  obtain ⟨-, hframe, -, hhelp, hforgotten⟩ := construction_forgotten Construction.replaced
  refine ⟨hagree, (hforgotten _).2 hagree, ?_, hhelp "z" (Construction.pairBelow false) rfl⟩
  exact hframe _ _ Construction.replaced.build (Command.new .echo) [] ["a"] "日" "z" rfl rfl
    (by decide)

end Shell

end Backtrack
