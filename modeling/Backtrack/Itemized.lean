import Backtrack.Operator

/-!
# Itemized text

A text cut into items by the separators `;` and `;+`.  An item is whatever stands in front of the
next separator or of the end of the text, without the blanks around it, and it may be empty.  The
separators are operators that group to the left, so that the tree tells which of them stood where;
two separators in a row are none.
-/

set_option autoImplicit false

namespace Backtrack

namespace Itemized

/-- What ends an item. -/
def terminator : Parser Unit :=
  .firstOf [.ignore (.text ";+"), .ignore (.text ";"), .endOfInput]

/-- Read one item. -/
def item : Parser String :=
  Parser.map (fun (scanned, _) => String.ofList (Text.trim scanned.toList)) (.upTo terminator)

/-- The separators. -/
def separators : Operators := (Operators.level [";+", ";"] .left).withGuard [';', '+']

/-- Read items with separators between them. -/
def list : Parser (Tree String) := separators.parser item

/-- The text of a list, with round brackets around every separation. -/
def render (t : Tree String) : String := t.render id

end Itemized

end Backtrack
