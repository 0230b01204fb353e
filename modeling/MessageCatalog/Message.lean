/-
Messages: a pattern, or a selection between patterns.
-/
import MessageCatalog.Pattern

namespace MessageCatalog

/-- What a selection looks at. -/
structure Selector where
  value : Element
  /-- The key that always matches; the category `other` if none is given. -/
  default : Option Literal

/-- One row of a selection: a key for each selector, and a pattern. -/
structure Case where
  keys : List Literal
  pattern : Pattern

/-- A selection between cases. -/
structure Selection where
  selectors : List Selector
  cases : List Case

/-- A message. -/
inductive Message where
  | pattern (elements : Pattern)
  | select (selection : Selection)

instance : Inhabited Message := ⟨.pattern []⟩

/-- The default key of a selector that gives none. -/
def otherCategory : String := "other"

/-- The key that always matches. -/
def Selector.defaultKey (s : Selector) : Literal := s.default.getD (.string otherCategory)

end MessageCatalog
