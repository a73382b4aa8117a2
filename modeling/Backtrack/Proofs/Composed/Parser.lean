import Backtrack.Itemized
import Backtrack.Pattern.Basic
import Backtrack.Shell.Line
import Backtrack.Arithmetic

/-!
# Parsers put together from the library

A parser is any function from cursors to outcomes, and of an arbitrary one nothing can be said.
What can be said is said of those that are put together from the parsers and combinators of the
library, with arbitrary functions on values and errors wherever a combinator asks for one.
`Composed` singles them out.

Some statements hold only of parsers that do without certain combinators.  The combinators in
question are listed as `Feature`s, and `Composed allowed` is about the parsers that use no others
than the allowed ones.

Recursion enters through `unroll`: a parser that refers to itself is given level by level, and it
depends on the unread text how many levels are used.

`Composed` has one constructor for each combinator with a body of its own.  The combinators that
are made of others, and the parsers and grammars that come with the library, have one lemma each.
-/

set_option autoImplicit false

namespace Backtrack

/-- A combinator that not every statement about parsers allows. -/
inductive Feature where
  /-- To note where a value was read. -/
  | ranged
  /-- To make an error other than a mismatch, or to change an error. -/
  | failure
  /-- To require the end of the input. -/
  | endOfInput
  /-- To search for a terminator. -/
  | upTo
deriving DecidableEq, Repr

/-- The parser is put together from those of the library, and the features that it uses are
allowed. -/
inductive Composed (allowed : Feature → Prop) : {α : Type} → Parser α → Prop
  | pure {α : Type} (v : α) : Composed allowed (Parser.pure v)
  | mismatch {α : Type} : Composed allowed (Parser.mismatch : Parser α)
  | fail {α : Type} (h : allowed .failure) (e : ParseError) :
      Composed allowed (Parser.fail e : Parser α)
  /-- A parser that calls itself before it reads anything. -/
  | diverge {α : Type} : Composed allowed (fun _ => .diverge : Parser α)
  | bind {α β : Type} {p : Parser α} {f : α → Parser β} (hp : Composed allowed p)
      (hf : ∀ v, Composed allowed (f v)) : Composed allowed (Parser.bind p f)
  | map {α β : Type} (f : α → β) {p : Parser α} (hp : Composed allowed p) :
      Composed allowed (Parser.map f p)
  | mapError {α : Type} (h : allowed .failure) (f : ParseError → ParseError) {p : Parser α}
      (hp : Composed allowed p) : Composed allowed (Parser.mapError f p)
  | recover {α : Type} {p : Parser α} {f : ParseError → Parser α} (hp : Composed allowed p)
      (hf : ∀ e, Composed allowed (f e)) : Composed allowed (Parser.recover p f)
  | filterMap {α β : Type} (f : α → Option β) {p : Parser α} (hp : Composed allowed p) :
      Composed allowed (Parser.filterMap f p)
  | ranged {α : Type} (h : allowed .ranged) {p : Parser α} (hp : Composed allowed p) :
      Composed allowed (Parser.ranged p)
  | satisfy (f : Char → Bool) : Composed allowed (Parser.satisfy f)
  | text (s : String) : Composed allowed (Parser.text s)
  | pattern (p : Pattern) : Composed allowed p.parser
  | either {α : Type} {p q : Parser α} (hp : Composed allowed p) (hq : Composed allowed q) :
      Composed allowed (Parser.either p q)
  | firstOf {α : Type} {ps : List (Parser α)} (hps : ∀ p ∈ ps, Composed allowed p) :
      Composed allowed (Parser.firstOf ps)
  | optional {α : Type} {p : Parser α} (hp : Composed allowed p) :
      Composed allowed (Parser.optional p)
  | many {α : Type} {p : Parser α} (hp : Composed allowed p) : Composed allowed (Parser.many p)
  | many1 {α : Type} {p : Parser α} (hp : Composed allowed p) : Composed allowed (Parser.many1 p)
  | separatedBy {α β : Type} {p : Parser α} {separator : Parser β} (hp : Composed allowed p)
      (hs : Composed allowed separator) : Composed allowed (Parser.separatedBy p separator)
  | separatedBy1 {α β : Type} {p : Parser α} {separator : Parser β} (hp : Composed allowed p)
      (hs : Composed allowed separator) : Composed allowed (Parser.separatedBy1 p separator)
  | followedBy {α β : Type} {p : Parser α} {look : Parser β} (hp : Composed allowed p)
      (hlook : Composed allowed look) : Composed allowed (Parser.followedBy p look)
  | notFollowedBy {α β : Type} {p : Parser α} {look : Parser β} (hp : Composed allowed p)
      (hlook : Composed allowed look) : Composed allowed (Parser.notFollowedBy p look)
  | upTo {α : Type} (h : allowed .upTo) {terminator : Parser α}
      (ht : Composed allowed terminator) : Composed allowed (Parser.upTo terminator)
  | endOfInput (h : allowed .endOfInput) : Composed allowed Parser.endOfInput
  | leftOperators {α : Type} {symbol : Parser String} {operand : Parser α}
      (hs : Composed allowed symbol) (ho : Composed allowed operand) :
      Composed allowed (Parser.leftOperators symbol operand)
  | rightOperators {α : Type} {symbol : Parser String} {operand : Parser α}
      (hs : Composed allowed symbol) (ho : Composed allowed operand) :
      Composed allowed (Parser.rightOperators symbol operand)
  /-- A parser given level by level, unrolled as far as the unread text asks for. -/
  | unroll {α : Type} {ps : Nat → Parser α} (hps : ∀ n, Composed allowed (ps n))
      (depth : Text → Nat) : Composed allowed (fun c => ps (depth c.rest) c)

namespace Composed

variable {allowed : Feature → Prop} {α β γ : Type} {p : Parser α} {q : Parser β}

/-! ## Combinators made of others -/

theorem ofExcept (h : allowed .failure) (r : Except ParseError α) :
    Composed allowed (Parser.ofExcept r) := by
  cases r with
  | ok v => exact .pure v
  | error e => exact .fail h e

theorem ignore (hp : Composed allowed p) : Composed allowed (Parser.ignore p) := .map _ hp

theorem filter (f : α → Bool) (hp : Composed allowed p) : Composed allowed (Parser.filter f p) :=
  .filterMap _ hp

theorem notEmpty {p : Parser String} (hp : Composed allowed p) :
    Composed allowed (Parser.notEmpty p) :=
  .filter _ hp

theorem joined {p : Parser (List Char)} (hp : Composed allowed p) :
    Composed allowed (Parser.joined p) :=
  .map _ hp

theorem pair (hp : Composed allowed p) (hq : Composed allowed q) :
    Composed allowed (Parser.pair p q) :=
  .bind hp fun _ => .bind hq fun _ => .pure _

theorem left (hp : Composed allowed p) (hq : Composed allowed q) :
    Composed allowed (Parser.left p q) :=
  .bind hp fun _ => .bind hq fun _ => .pure _

theorem right (hp : Composed allowed p) (hq : Composed allowed q) :
    Composed allowed (Parser.right p q) :=
  .bind hp fun _ => hq

theorem sequence {ps : List (Parser α)} (hps : ∀ p ∈ ps, Composed allowed p) :
    Composed allowed (Parser.sequence ps) := by
  induction ps with
  | nil => exact .pure _
  | cons p ps ih =>
    have hp : Composed allowed p := hps p List.mem_cons_self
    have ih := ih fun p hp => hps p (List.mem_cons_of_mem _ hp)
    exact .bind hp fun _ => .bind ih fun _ => .pure _

theorem exactly (hp : Composed allowed p) (n : Nat) : Composed allowed (Parser.exactly n p) := by
  induction n with
  | zero => exact .pure _
  | succ n ih => exact .bind hp fun _ => .bind ih fun _ => .pure _

theorem delimitedBy {opening : Parser α} {closing : Parser γ} (ho : Composed allowed opening)
    (hq : Composed allowed q) (hc : Composed allowed closing) :
    Composed allowed (Parser.delimitedBy opening q closing) :=
  .bind ho fun _ => .bind hq fun _ => .bind hc fun _ => .pure _

theorem withDefault (d : α) (hp : Composed allowed p) :
    Composed allowed (Parser.withDefault d p) :=
  .map _ (.optional hp)

theorem ended (h : allowed .endOfInput) (hp : Composed allowed p) :
    Composed allowed (Parser.ended p) :=
  .left hp (.endOfInput h)

theorem spaced (hp : Composed allowed p) : Composed allowed (Parser.spaced p) :=
  .delimitedBy (.many (.satisfy _)) hp (.many (.satisfy _))

theorem enclosed (x y : Char) (hp : Composed allowed p) :
    Composed allowed (Parser.delimitedBy (.char x) p (.char y)) :=
  .delimitedBy (.satisfy _) hp (.satisfy _)

/-! ## Numbers -/

theorem digits : Composed allowed Parser.digits := .joined (.many1 (.satisfy _))

theorem magnitude : Composed allowed Parser.magnitude := .map _ .digits

theorem posint : Composed allowed Parser.posint := .filter _ .magnitude

theorem signed (negate : α → α) (hp : Composed allowed p) :
    Composed allowed (Parser.signed negate p) :=
  .bind (.optional (.satisfy _)) fun _ => .bind hp fun _ => .pure _

theorem integer : Composed allowed Parser.integer := .filter _ (.signed _ (.map _ .magnitude))

theorem pointed : Composed allowed Parser.pointed :=
  .bind (.optional .digits) fun _ => .bind (.satisfy _) fun _ => .bind .digits fun _ => .pure _

theorem unsignedDecimal : Composed allowed Parser.unsignedDecimal := by
  refine .map _ (.firstOf fun p hp => ?_)
  simp only [List.mem_cons, List.not_mem_nil, or_false] at hp
  obtain rfl | rfl := hp
  · exact .pointed
  · exact .digits

theorem decimal : Composed allowed Parser.decimal := .signed _ .unsignedDecimal

/-! ## Operators -/

theorem firstSymbol (symbols : List String) (guardChars : Text) :
    Composed allowed (Parser.firstSymbol symbols guardChars) := by
  refine .spaced (.firstOf fun p hp => ?_)
  obtain ⟨s, -, rfl⟩ := List.mem_map.1 hp
  exact .notFollowedBy (.text s) (.satisfy _)

theorem operatorSymbol (symbols : List String) (guardChars : Text) :
    Composed allowed (Parser.operatorSymbol symbols guardChars) :=
  .firstSymbol _ _

theorem operators (o : Operators) (hp : Composed allowed p) : Composed allowed (o.parser p) := by
  rw [Operators.parser]
  cases o.assoc with
  | left => exact .leftOperators (.firstSymbol _ _) hp
  | right => exact .rightOperators (.firstSymbol _ _) hp

/-! ## The grammars of the library -/

theorem atom {self : Parser (Tree Float)} (hself : Composed allowed self) :
    Composed allowed (Arithmetic.atom self) :=
  .either (.map _ .unsignedDecimal) (.enclosed '(' ')' hself)

theorem flatOperators (o : Operators) {p : Parser (Tree Float)} (hp : Composed allowed p) :
    Composed allowed (Arithmetic.operators o p) :=
  .map _ (.operators o hp)

theorem exprWith {self : Parser (Tree Float)} (hself : Composed allowed self) :
    Composed allowed (Arithmetic.exprWith self) :=
  .spaced (.flatOperators _ (.flatOperators _ (.flatOperators _ (.atom hself))))

theorem level (n : Nat) : Composed allowed (Arithmetic.level n) := by
  induction n with
  | zero => exact .mismatch
  | succ n ih => exact .exprWith ih

theorem expr : Composed allowed Arithmetic.expr := .unroll level fun s => s.count '(' + 1

theorem calculator : Composed allowed Arithmetic.calculator := .map _ .expr

theorem item (hupTo : allowed .upTo) (hend : allowed .endOfInput) :
    Composed allowed Itemized.item := by
  refine .map _ (.upTo hupTo (.firstOf fun p hp => ?_))
  simp only [List.mem_cons, List.not_mem_nil, or_false] at hp
  obtain rfl | rfl | rfl := hp
  · exact .ignore (.text _)
  · exact .ignore (.text _)
  · exact .endOfInput hend

theorem list (hupTo : allowed .upTo) (hend : allowed .endOfInput) :
    Composed allowed Itemized.list :=
  .operators _ (.item hupTo hend)

theorem word : Composed allowed Shell.word := .joined (.many1 (.satisfy _))

theorem quotedWord : Composed allowed Shell.quotedWord :=
  .enclosed '"' '"' (.joined (.many (.satisfy _)))

theorem commandPath : Composed allowed Shell.commandPath :=
  .separatedBy1 (.joined (.many1 (.satisfy _))) (.satisfy _)

theorem arguments : Composed allowed Shell.arguments := by
  have hargument : Composed allowed Shell.argument := by
    refine .firstOf fun p hp => ?_
    simp only [List.mem_cons, List.not_mem_nil, or_false] at hp
    obtain rfl | rfl := hp
    · exact .quotedWord
    · exact .word
  have hgap : Composed allowed (Parser.many1 Parser.white) := .many1 (.satisfy _)
  exact .withDefault _ (.right hgap (.separatedBy1 hargument hgap))

theorem command (h : allowed .failure) (root : Shell.Command) :
    Composed allowed (Shell.command root) := by
  refine .spaced (.bind .commandPath fun path => ?_)
  rw [Shell.runAt]
  split
  · exact .map _ .arguments
  · exact .fail h _

end Composed

end Backtrack
