import Backtrack.Grammar.Basic
import Backtrack.Proofs.Composed.Parser

/-!
# Grammars describe composed parsers

The parser that a grammar describes together with definitions is put together from those of the
library (`Grammar.parser_composed`).  The features that it uses are those that occur in the grammar
or in a definition to which its names lead, directly or through other definitions
(`Grammar.Uses`).  So whatever is shown of composed parsers holds of grammars, however their
definitions refer to each other.
-/

set_option autoImplicit false

namespace Backtrack

/-- What there is to know about the parts of a grammar. -/
inductive Ingredient where
  /-- A feature is used. -/
  | feature (f : Feature)
  /-- A name is used. -/
  | name (name : String)
deriving DecidableEq, Repr

/-- The features that a grammar of the library uses. -/
def Standard.ingredients : Standard → List Ingredient
  | list | item => [.feature .upTo, .feature .endOfInput]
  | command => [.feature .failure]
  | _ => []

namespace Grammar

mutual

/-- The features and names that occur in a grammar. -/
def ingredients : Grammar → List Ingredient
  | satisfy _ | text _ | pattern _ | take _ | pure _ | operatorSymbol _ _ => []
  | standard s => s.ingredients
  | ref name => [.name name]
  | fail _ => [.feature .failure]
  | endOfInput => [.feature .endOfInput]
  | mapError _ g => .feature .failure :: g.ingredients
  | upTo terminator => .feature .upTo :: terminator.ingredients
  | ranged g => .feature .ranged :: g.ingredients
  | map _ g | filterMap _ g | signed g | repeatAny g | same g | optional g | many g | many1 g
  | operators _ g => g.ingredients
  | recover g h | pair g h | left g h | right g h | either g h | separatedBy g h
  | separatedBy1 g h | followedBy g h | notFollowedBy g h => g.ingredients ++ h.ingredients
  | delimitedBy opening g closing =>
    opening.ingredients ++ (g.ingredients ++ closing.ingredients)
  | sequence gs | firstOf gs => ingredientsAll gs
  -- a key that is not listed gives an error with a message of its own
  | switch g cases _ | recoverKinds g cases =>
    .feature .failure :: (g.ingredients ++ ingredientsCases cases)

/-- The features and names that occur in one of several grammars. -/
def ingredientsAll : List Grammar → List Ingredient
  | [] => []
  | g :: gs => g.ingredients ++ ingredientsAll gs

/-- The features and names that occur in one of several grammars listed under keys. -/
def ingredientsCases : List (String × Grammar) → List Ingredient
  | [] => []
  | (_, g) :: cases => g.ingredients ++ ingredientsCases cases

end

/-- A feature occurs in a grammar, or in a definition to which its names lead. -/
inductive Uses (defs : Definitions) : Grammar → Feature → Prop
  | here {g : Grammar} {f : Feature} (h : .feature f ∈ g.ingredients) : Uses defs g f
  | through {g d : Grammar} {name : String} {f : Feature} (hname : .name name ∈ g.ingredients)
      (hd : defs.lookup name = some d) (h : Uses defs d f) : Uses defs g f

theorem ingredients_subset_of_lookup {defs : Definitions} {name : String} {d : Grammar}
    (h : defs.lookup name = some d) : d.ingredients ⊆ ingredientsCases defs := by
  induction defs with
  | nil => cases h
  | cons c defs ih =>
    obtain ⟨key, g⟩ := c
    rw [List.lookup_cons] at h
    split at h
    · cases h
      exact List.subset_append_left _ _
    · exact List.subset_append_of_subset_right _ (ih h)

/-- No feature is used that occurs neither in the grammar nor in any of the definitions. -/
theorem Uses.mem_ingredients {defs : Definitions} {g : Grammar} {f : Feature}
    (h : g.Uses defs f) :
    .feature f ∈ g.ingredients ∨ .feature f ∈ ingredientsCases defs := by
  induction h with
  | here h => exact .inl h
  | through _ hd _ ih =>
    rcases ih with ih | ih
    · exact .inr (ingredients_subset_of_lookup hd ih)
    · exact .inr ih

end Grammar

/-- An ingredient is at hand: the feature is allowed, or the name stands for a composed parser. -/
def Ingredient.Supplied (allowed : Feature → Prop) (env : String → Parser Value) :
    Ingredient → Prop
  | feature f => allowed f
  | name n => Composed allowed (env n)

theorem Standard.parser_composed {allowed : Feature → Prop} {env : String → Parser Value}
    (s : Standard) (h : ∀ i ∈ s.ingredients, i.Supplied allowed env) :
    Composed allowed s.parser := by
  cases s with
  | posint => exact .map _ (.bind .posint fun _ => .pure _)
  | integer => exact .map _ .integer
  | unsignedDecimal => exact .map _ .unsignedDecimal
  | decimal => exact .map _ .decimal
  | expr => exact .map _ .expr
  | calculator => exact .map _ .calculator
  | list =>
    have hupTo : allowed .upTo := h (.feature .upTo) (by decide)
    have hend : allowed .endOfInput := h (.feature .endOfInput) (by decide)
    exact .map _ (.list hupTo hend)
  | item =>
    have hupTo : allowed .upTo := h (.feature .upTo) (by decide)
    have hend : allowed .endOfInput := h (.feature .endOfInput) (by decide)
    exact .map _ (.item hupTo hend)
  | word => exact .map _ .word
  | quotedWord => exact .map _ .quotedWord
  | commandPath => exact .map _ .commandPath
  | arguments => exact .map _ .arguments
  | command =>
    have hfailure : allowed .failure := h (.feature .failure) (by decide)
    exact .map _ (.command hfailure _)

namespace Grammar

variable {allowed : Feature → Prop} {env : String → Parser Value}

theorem repeatValue_composed (v : Value) : Composed allowed (repeatValue v) := by
  cases v with
  | int n => exact .map _ (.joined (.exactly (.satisfy _) _))
  | _ => exact .mismatch

theorem sameValue_composed (v : Value) : Composed allowed (sameValue v) := by
  cases v with
  | char c => exact .map _ (.satisfy _)
  | _ => exact .map _ (.text _)

/-- The parser listed under a key, or an error if there is none. -/
theorem lookup_composed {cases : List (String × Parser Value)}
    (hcases : ∀ c ∈ cases, Composed allowed c.2) (h : allowed .failure) (key : String)
    (e : ParseError) : Composed allowed ((cases.lookup key).getD (Parser.fail e)) := by
  induction cases with
  | nil => exact .fail h e
  | cons c cases ih =>
    have hc := hcases c List.mem_cons_self
    have ih := ih fun c hc => hcases c (List.mem_cons_of_mem _ hc)
    rw [List.lookup_cons]
    split
    · exact hc
    · exact ih

mutual

/-- **A grammar describes a composed parser**, if all its ingredients are at hand. -/
theorem denote_composed (g : Grammar)
    (h : ∀ i ∈ g.ingredients, i.Supplied allowed env) : Composed allowed (g.denote env) := by
  cases g with
  | satisfy f => exact .map _ (.satisfy _)
  | text s => exact .map _ (.text s)
  | pattern p => exact .map _ (.pattern p)
  | take n => exact .map _ (.joined (.exactly (.satisfy _) n))
  | standard s => exact s.parser_composed h
  | ref name => exact h (.name name) List.mem_cons_self
  | pure v => exact .pure v
  | fail e => exact .fail (h (.feature .failure) List.mem_cons_self) e
  | endOfInput => exact .map _ (.endOfInput (h (.feature .endOfInput) List.mem_cons_self))
  | map f g => exact .map _ (denote_composed g h)
  | filterMap f g => exact .filterMap _ (denote_composed g h)
  | mapError f g =>
    obtain ⟨hf, hg⟩ := List.forall_mem_cons.1 h
    exact .mapError hf _ (denote_composed g hg)
  | signed g => exact .signed _ (denote_composed g h)
  | repeatAny g => exact .bind (denote_composed g h) repeatValue_composed
  | same g => exact .bind (denote_composed g h) sameValue_composed
  | switch g cases message =>
    obtain ⟨hf, h⟩ := List.forall_mem_cons.1 h
    obtain ⟨hg, hcases⟩ := List.forall_mem_append.1 h
    exact .bind (denote_composed g hg) fun v =>
      lookup_composed (denoteCases_composed cases hcases) hf _ _
  | recover g g' =>
    obtain ⟨hg, hg'⟩ := List.forall_mem_append.1 h
    exact .recover (denote_composed g hg) fun _ => denote_composed g' hg'
  | recoverKinds g cases =>
    obtain ⟨hf, h⟩ := List.forall_mem_cons.1 h
    obtain ⟨hg, hcases⟩ := List.forall_mem_append.1 h
    exact .recover (denote_composed g hg) fun e =>
      lookup_composed (denoteCases_composed cases hcases) hf _ _
  | pair g g' =>
    obtain ⟨hg, hg'⟩ := List.forall_mem_append.1 h
    exact .map _ (.pair (denote_composed g hg) (denote_composed g' hg'))
  | left g g' =>
    obtain ⟨hg, hg'⟩ := List.forall_mem_append.1 h
    exact .left (denote_composed g hg) (denote_composed g' hg')
  | right g g' =>
    obtain ⟨hg, hg'⟩ := List.forall_mem_append.1 h
    exact .right (denote_composed g hg) (denote_composed g' hg')
  | sequence gs => exact .map _ (.sequence (denoteAll_composed gs h))
  | delimitedBy o g c =>
    obtain ⟨ho, h⟩ := List.forall_mem_append.1 h
    obtain ⟨hg, hc⟩ := List.forall_mem_append.1 h
    exact .delimitedBy (denote_composed o ho) (denote_composed g hg)
      (denote_composed c hc)
  | either g g' =>
    obtain ⟨hg, hg'⟩ := List.forall_mem_append.1 h
    exact .either (denote_composed g hg) (denote_composed g' hg')
  | firstOf gs => exact .firstOf (denoteAll_composed gs h)
  | optional g => exact .map _ (.optional (denote_composed g h))
  | many g => exact .map _ (.many (denote_composed g h))
  | many1 g => exact .map _ (.many1 (denote_composed g h))
  | separatedBy g s =>
    obtain ⟨hg, hs⟩ := List.forall_mem_append.1 h
    exact .map _ (.separatedBy (denote_composed g hg) (denote_composed s hs))
  | separatedBy1 g s =>
    obtain ⟨hg, hs⟩ := List.forall_mem_append.1 h
    exact .map _ (.separatedBy1 (denote_composed g hg) (denote_composed s hs))
  | followedBy g l =>
    obtain ⟨hg, hl⟩ := List.forall_mem_append.1 h
    exact .followedBy (denote_composed g hg) (denote_composed l hl)
  | notFollowedBy g l =>
    obtain ⟨hg, hl⟩ := List.forall_mem_append.1 h
    exact .notFollowedBy (denote_composed g hg) (denote_composed l hl)
  | upTo t =>
    obtain ⟨hf, ht⟩ := List.forall_mem_cons.1 h
    exact .map _ (.upTo hf (denote_composed t ht))
  | ranged g =>
    obtain ⟨hf, hg⟩ := List.forall_mem_cons.1 h
    exact .map _ (.ranged hf (denote_composed g hg))
  | operators o g => exact .map _ (.operators o (denote_composed g h))
  | operatorSymbol symbols guardChars => exact .map _ (.operatorSymbol symbols guardChars)

theorem denoteAll_composed (gs : List Grammar)
    (h : ∀ i ∈ ingredientsAll gs, i.Supplied allowed env) :
    ∀ p ∈ denoteAll env gs, Composed allowed p := by
  cases gs with
  | nil => simp [denoteAll]
  | cons g gs =>
    obtain ⟨hg, hgs⟩ := List.forall_mem_append.1 h
    exact List.forall_mem_cons.2 ⟨denote_composed g hg, denoteAll_composed gs hgs⟩

theorem denoteCases_composed (cases : List (String × Grammar))
    (h : ∀ i ∈ ingredientsCases cases, i.Supplied allowed env) :
    ∀ c ∈ denoteCases env cases, Composed allowed c.2 := by
  cases cases with
  | nil => simp [denoteCases]
  | cons c cases =>
    obtain ⟨key, g⟩ := c
    obtain ⟨hg, hcases⟩ := List.forall_mem_append.1 h
    exact List.forall_mem_cons.2
      ⟨denote_composed g hg, denoteCases_composed cases hcases⟩

end

end Grammar

theorem Definitions.level_composed {allowed : Feature → Prop} {defs : Definitions} (n : Nat)
    (name : String)
    (h : ∀ d, defs.lookup name = some d → ∀ f, d.Uses defs f → allowed f) :
    Composed allowed (defs.level n name) := by
  induction n generalizing name with
  | zero => exact .diverge
  | succ n ih =>
    rw [Definitions.level]
    split
    · rename_i d hd
      refine d.denote_composed ?_
      rintro (f | name') hi
      · exact h d hd f (.here hi)
      · exact ih name' fun d' hd' f hf => h d hd f (.through hi hd' hf)
    · exact .mismatch

/-- **A grammar with definitions describes a composed parser**, and the features of that parser are
those that the grammar uses. -/
theorem Grammar.parser_composed {allowed : Feature → Prop} {defs : Definitions} {g : Grammar}
    (h : ∀ f, g.Uses defs f → allowed f) : Composed allowed (g.parser defs) := by
  have hlevel : ∀ n, Composed allowed (g.denote (defs.level n)) := by
    intro n
    refine g.denote_composed ?_
    rintro (f | name) hi
    · exact h f (.here hi)
    · exact Definitions.level_composed n name fun d hd f hf => h f (.through hi hd hf)
  exact .unroll hlevel fun s => (s.length + 1) * defs.length + 1

end Backtrack
