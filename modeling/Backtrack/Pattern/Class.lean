import Backtrack.Pattern.Escape

/-!
# Classes in square brackets

A class lists characters, ranges, escapes and further classes.  Lists can be combined by `&&` for
what is in both, `--` for what is only in the first and `~~` for what is in exactly one; these
bind less tightly than listing and group to the left.
-/

set_option autoImplicit false

namespace Backtrack

namespace Pattern

/-- How two lists of characters are combined. -/
inductive SetOp where
  | inter
  | diff
  | symmDiff

/-- Combine two sets of characters. -/
def SetOp.apply : SetOp → CharSet → CharSet → CharSet
  | inter => CharSet.inter
  | diff => CharSet.diff
  | symmDiff => CharSet.symmDiff

/-- A set of characters, with how deeply its description is nested. -/
structure NestedSet where
  set : CharSet
  depth : Nat

/-- A class that has been read in part. -/
structure OpenClass where
  /-- What stands in front of the last operator. -/
  pending : Option (SetOp × NestedSet)
  /-- The characters listed since then. -/
  listed : CharSet
  /-- The number of items listed since then. -/
  items : Nat
  /-- The depth of the most deeply nested of these items. -/
  deepest : Nat

namespace OpenClass

/-- A class of which nothing has been read. -/
def new : OpenClass := ⟨none, .none, 0, 0⟩

/-- List further characters. -/
def add (k : OpenClass) (item : NestedSet) : OpenClass :=
  { k with
    listed := k.listed.union item.set
    items := k.items + 1
    deepest := max k.deepest item.depth }

/-- What has been read so far. -/
def value (f : Flags) (k : OpenClass) : NestedSet :=
  let last : NestedSet := ⟨k.listed, if k.items ≤ 1 then k.deepest else k.deepest + 1⟩
  match k.pending with
  | none => last
  | some (op, first) =>
    ⟨op.apply (f.fold first.set) (f.fold last.set), max first.depth last.depth + 1⟩

/-- Go on after an operator. -/
def push (f : Flags) (k : OpenClass) (op : SetOp) : OpenClass :=
  { new with pending := some (op, k.value f) }

end OpenClass

namespace ClassReader

/-- Read a class with a name, after its opening bracket.  There may be no set with this name. -/
def named? (f : Flags) (s : Text) : Option (Option CharSet × Text) :=
  match s with
  | ':' :: s =>
    let (negated, s) : Bool × Text :=
      match s with
      | '^' :: t => (true, t)
      | _ => (false, s)
    match s.dropWhile (· != ':') with
    | ':' :: ']' :: rest =>
      (CharSet.asciiClass? (String.ofList (s.takeWhile (· != ':')))).map fun set =>
        (Escape.classOf? f negated set, rest)
    | _ => none
  | _ => none

/-- Read one character or escape. -/
def item? (f : Flags) : Text → Option (Atom × Text)
  | [] => none
  | '\\' :: s => Escape.read? f s
  | c :: s => some (.literal c, s)

/-- The characters that an item of a class stands for; a condition stands for none. -/
def setOf? (f : Flags) : Atom → Option CharSet
  | .literal c => if f.unicode || c.toNat < 0x80 then some (.single c) else none
  | .charClass s => some s
  | .look _ => none

/-- Read an item or a range of characters.  A hyphen stands for itself in front of the closing
bracket, and two of them are an operator. -/
def range? (f : Flags) (s : Text) : Option (CharSet × Text) :=
  (item? f s).bind fun (a, s) =>
    match f.skip s with
    | [] => none
    | '-' :: t =>
      match f.skip t with
      | [] => none
      | c :: t' =>
        if c == ']' || c == '-' then (setOf? f a).map (·, '-' :: t)
        else
          (item? f (c :: t')).bind fun (b, rest) =>
            match a, b with
            | .literal lo, .literal hi =>
              if lo ≤ hi ∧ (f.unicode ∨ hi.toNat < 0x80) then some (.between lo hi, rest) else none
            | _, _ => none
    | s => (setOf? f a).map (·, s)

/-- Read the hyphens at the beginning of a class, which stand for themselves. -/
def hyphens (f : Flags) : Nat → OpenClass → Text → OpenClass × Text
  | n + 1, k, '-' :: s => hyphens f n (k.add ⟨.single '-', 0⟩) (f.skip s)
  | _, k, s => (k, s)

/-- Read the beginning of a class, after its opening bracket: whether it is complemented, and the
characters that have no other meaning there. -/
def opening (f : Flags) (s : Text) : Bool × OpenClass × Text :=
  let s := f.skip s
  let (negated, s) : Bool × Text :=
    match s with
    | '^' :: t => (true, f.skip t)
    | _ => (false, s)
  let (k, s) := hyphens f s.length .new s
  match s with
  | ']' :: t => if k.items = 0 then (negated, k.add ⟨.single ']', 0⟩, f.skip t) else (negated, k, s)
  | _ => (negated, k, s)

/-- Read the rest of a class, up to its closing bracket.  `n` bounds the number of steps. -/
def rest? (f : Flags) : Nat → OpenClass → Text → Option (NestedSet × Text)
  | 0, _, _ => none
  | n + 1, k, s =>
    match f.skip s with
    | [] => none
    | ']' :: t => some (k.value f, t)
    | '&' :: '&' :: t => rest? f n (k.push f .inter) t
    | '-' :: '-' :: t => rest? f n (k.push f .diff) t
    | '~' :: '~' :: t => rest? f n (k.push f .symmDiff) t
    | '[' :: t =>
      match named? f t with
      | some (some set, t) => rest? f n (k.add ⟨set, 0⟩) t
      | some (none, _) => none
      | none =>
        let (negated, inner, t) := opening f t
        match rest? f n inner t with
        | some (v, t) =>
          match Escape.classOf? f negated v.set with
          | some set => rest? f n (k.add ⟨set, v.depth + 1⟩) t
          | none => none
        | none => none
    | s =>
      match range? f s with
      | some (set, t) => rest? f n (k.add ⟨set, 0⟩) t
      | none => none

/-- Read a class, after its opening bracket. -/
def read? (f : Flags) (s : Text) : Option (NestedSet × Text) :=
  let (negated, k, t) := opening f s
  (rest? f (s.length + 1) k t).bind fun (v, t) =>
    (Escape.classOf? f negated v.set).map fun set => (⟨set, v.depth + 1⟩, t)

end ClassReader

end Pattern

end Backtrack
