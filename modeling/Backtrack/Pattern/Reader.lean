import Backtrack.Pattern.Class

/-!
# Reading patterns

From the text of a pattern to the regular expression it describes.  Reading goes from left to
right, one item at a time: characters, classes, conditions, groups in round brackets, and the
signs for repetition, which apply to the item in front of them.  A setting of flags counts from
where it stands to the end of the group around it.

This is enough to run patterns with.  It is not the whole of any dialect: of the Unicode properties
only some have names here, and the size of a pattern is counted in steps, to which a class adds one
however many characters it holds.

A text that is not a pattern is refused without further explanation.
-/

set_option autoImplicit false

namespace Backtrack

namespace Pattern

/-- An item of a pattern. -/
structure Item where
  /-- What the item matches. -/
  regex : Regex
  /-- How deeply its description is nested. -/
  depth : Nat
  /-- Whether it can be repeated, which a setting of flags cannot. -/
  repeatable : Bool

/-- A group, or the whole pattern, of which a part has been read. -/
structure OpenGroup where
  /-- The flags in force. -/
  flags : Flags
  /-- The branches before the last vertical bar, the last one first. -/
  branches : List Item
  /-- The items since then, the last one first. -/
  items : List Item
  /-- The names given to groups so far, in the whole pattern. -/
  names : List Text

namespace OpenGroup

/-- Nothing read yet. -/
def new (flags : Flags) (names : List Text) : OpenGroup := ⟨flags, [], [], names⟩

/-- Add an item. -/
def add (g : OpenGroup) (regex : Regex) (depth : Nat) : OpenGroup :=
  { g with items := ⟨regex, depth, true⟩ :: g.items }

/-- The greatest depth of some items, and one more if there are several. -/
def depthOf (items : List Item) : Nat :=
  let deepest := items.foldl (fun d i => max d i.depth) 0
  if items.length ≤ 1 then deepest else deepest + 1

/-- Some items one after another. -/
def sequence : List Item → Regex
  | [] => .empty
  | i :: items => items.foldl (fun r j => .seq r j.regex) i.regex

/-- The items since the last vertical bar as one. -/
def branch (g : OpenGroup) : Item := ⟨sequence g.items.reverse, depthOf g.items, true⟩

/-- Go on after a vertical bar. -/
def nextBranch (g : OpenGroup) : OpenGroup :=
  { g with branches := g.branch :: g.branches, items := [] }

/-- Everything read so far as one item. -/
def close (g : OpenGroup) : Item :=
  let last := g.branch
  ⟨g.branches.foldl (fun r b => .alt b.regex r) last.regex, depthOf (last :: g.branches), true⟩

end OpenGroup

namespace Reader

/-! ## Repetition -/

/-- Repeat the last item.  There has to be one, and it must not be a setting of flags. -/
def repeatLast? (g : OpenGroup) (least : Nat) (most : Option Nat) (greedy : Bool) :
    Option OpenGroup :=
  match g.items with
  | [] => none
  | i :: items =>
    if i.repeatable then
      let r : Regex := .rounds (greedy != g.flags.swapGreed) least most i.regex
      some { g with items := ⟨r, i.depth + 1, true⟩ :: items }
    else none

/-- Whether a repetition is greedy: it is unless a question mark follows. -/
def greed (s : Text) : Bool × Text :=
  match s with
  | '?' :: t => (false, t)
  | _ => (true, s)

/-- Read the digits of a number of rounds, with blanks on both sides. -/
def count (f : Flags) (s : Text) : Text × Text :=
  digits (s.length + 1) (s.dropWhile Text.isBlank)
where
  /-- Read digits, and then blanks. -/
  digits : Nat → Text → Text × Text
    | n + 1, c :: s =>
      if c.isDigit then
        let (ds, rest) := digits n (f.skip s)
        (c :: ds, rest)
      else ([], (c :: s).dropWhile Text.isBlank)
    | _, s => ([], s)

/-- The number that digits stand for, if it fits into 32 bits. -/
def countValue? (digits : Text) : Option Nat :=
  let n := digits.foldl (fun n c => 10 * n + (c.toNat - '0'.toNat)) 0
  if digits.isEmpty || n ≥ 0x100000000 then none else some n

/-- Read the bounds of a repetition, after an opening curly bracket. -/
def bounds? (f : Flags) (s : Text) : Option (Nat × Option Nat × Text) :=
  let (first, s) := count f (f.skip s)
  (countValue? first).bind fun least =>
    match s with
    | '\x7d' :: t => some (least, some least, t)
    | ',' :: t =>
      match f.skip t with
      | '\x7d' :: t => some (least, none, t)
      | t =>
        let (second, t) := count f t
        (countValue? second).bind fun most =>
          match t with
          | '\x7d' :: t => if least ≤ most then some (least, some most, t) else none
          | _ => none
    | _ => none

/-! ## Groups -/

/-- Whether a character can be part of the name of a group, and at its beginning if `first`
holds. -/
def isNameChar (first : Bool) (c : Char) : Bool :=
  c == '_' || Charset.alphabetic.has c.toNat ||
    (!first && (c == '.' || c == '[' || c == ']' || Charset.number.has c.toNat))

/-- Read the name of a group, up to a closing angle bracket. -/
def groupName? (first : Bool) : Text → Option (Text × Text)
  | [] => none
  | c :: s =>
    if c == '>' then (if first then none else some ([], s))
    else if isNameChar first c then (groupName? false s).map fun (name, rest) => (c :: name, rest)
    else none

/-- What an opening round bracket begins. -/
inductive GroupStart where
  /-- A setting of flags. -/
  | setFlags (f : Flags)
  /-- A group, read with the given flags, and the names given to groups so far. -/
  | group (f : Flags) (names : List Text)

/-- Read the name of a group and note it. -/
def namedGroup? (f : Flags) (names : List Text) (s : Text) : Option (GroupStart × Text) :=
  (groupName? true s).bind fun (name, rest) =>
    if names.contains name then none else some (.group f (name :: names), rest)

/-- Read what follows an opening round bracket and is not yet part of the group.  Conditions on the
text around a place are refused. -/
def groupStart? (f : Flags) (names : List Text) (s : Text) : Option (GroupStart × Text) :=
  match f.skip s with
  | '?' :: '=' :: _ => none
  | '?' :: '!' :: _ => none
  | '?' :: '<' :: '=' :: _ => none
  | '?' :: '<' :: '!' :: _ => none
  | '?' :: 'P' :: '<' :: t => namedGroup? f names t
  | '?' :: '<' :: t => namedGroup? f names t
  | '?' :: t =>
    (f.read? [] false false t).bind fun (g, empty, t) =>
      match t with
      | ':' :: t => some (.group g names, t)
      | ')' :: t => if empty then none else some (.setFlags g, t)
      | _ => none
  | t => some (.group f names, t)

/-! ## Items -/

/-- The regular expression of an item that is not a group. -/
def regexOf (f : Flags) : Atom → Regex
  | .literal c => .set (f.fold (.single c))
  | .charClass s => .set s
  | .look l => .look l

/-- What the point stands for.  Without the Unicode classes it would match single bytes. -/
def dot? (f : Flags) : Option Regex :=
  if !f.unicode then none
  else if f.dotAll then some (.set .all)
  else if f.crlf then some (.set (CharSet.ofList ['\r', '\n']).compl)
  else some (.set (CharSet.single '\n').compl)

/-- Read items up to the end of the group, and leave what closes it.  `n` bounds the number of
steps. -/
def items? : Nat → OpenGroup → Text → Option (OpenGroup × Text)
  | 0, _, _ => none
  | n + 1, g, s =>
    match g.flags.skip s with
    | [] => some (g, [])
    | ')' :: t => some (g, ')' :: t)
    | '|' :: t => items? n g.nextBranch t
    | '(' :: t =>
      match groupStart? g.flags g.names t with
      | none => none
      | some (.setFlags f, t) =>
        items? n { g with flags := f, items := ⟨.empty, 0, false⟩ :: g.items } t
      | some (.group f names, t) =>
        match items? n (.new f names) t with
        | some (inner, ')' :: t) =>
          let i := inner.close
          items? n ({ g with names := inner.names }.add i.regex (i.depth + 1)) t
        | _ => none
    | '[' :: t =>
      match ClassReader.read? g.flags t with
      | some (v, t) => items? n (g.add (.set v.set) v.depth) t
      | none => none
    | '?' :: t =>
      let (greedy, t) := greed t
      match repeatLast? g 0 (some 1) greedy with
      | some g => items? n g t
      | none => none
    | '*' :: t =>
      let (greedy, t) := greed t
      match repeatLast? g 0 none greedy with
      | some g => items? n g t
      | none => none
    | '+' :: t =>
      let (greedy, t) := greed t
      match repeatLast? g 1 none greedy with
      | some g => items? n g t
      | none => none
    | '\x7b' :: t =>
      match bounds? g.flags t with
      | some (least, most, t) =>
        let (greedy, t) := greed (g.flags.skip t)
        match repeatLast? g least most greedy with
        | some g => items? n g t
        | none => none
      | none => none
    | '\\' :: t =>
      match Escape.read? g.flags t with
      | some (a, t) => items? n (g.add (regexOf g.flags a) 0) t
      | none => none
    | '.' :: t =>
      match dot? g.flags with
      | some r => items? n (g.add r 0) t
      | none => none
    | '^' :: t =>
      let l := if g.flags.multiLine then Look.lineStart g.flags.crlf else .textStart
      items? n (g.add (.look l) 0) t
    | '$' :: t =>
      let l := if g.flags.multiLine then Look.lineEnd g.flags.crlf else .textEnd
      items? n (g.add (.look l) 0) t
    | c :: t => items? n (g.add (regexOf g.flags (.literal c)) 0) t

/-- The greatest depth to which a pattern may be nested. -/
def maxDepth : Nat := 250

/-- The greatest number of steps that a pattern may have. -/
def maxSize : Nat := 327680

end Reader

/-- What a text describes, however large it is. -/
def describe? (source : Text) : Option Item :=
  match Reader.items? (source.length + 1) (.new .default []) source with
  | some (g, []) => some g.close
  | _ => none

/-- Whether an item keeps to the limits. -/
def Item.fits (i : Item) : Bool := i.depth ≤ Reader.maxDepth && i.regex.size ≤ Reader.maxSize

/-- The regular expression that a text describes, if it is a pattern. -/
def read? (source : Text) : Option Regex :=
  (describe? source).bind fun i => if i.fits then some i.regex else none

end Pattern

end Backtrack
