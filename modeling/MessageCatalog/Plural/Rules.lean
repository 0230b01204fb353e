/-
Plural categories, and where they come from.

Each language sorts numbers into some of six categories, with one set of
rules for counting and one for ranking. The rules are data from outside:
the program asks for those of a locale and applies them to operands. It is
written for any source of rules; the one it runs with is in
`MessageCatalog.Plural.Cldr`.
-/
import MessageCatalog.Plural.Operands
import MessageCatalog.Locale

namespace MessageCatalog.Plural

/-- The six categories. -/
inductive Category where
  | zero
  | one
  | two
  | few
  | many
  | other
deriving DecidableEq, Repr

/-- The name of a category. -/
def Category.name : Category → String
  | .zero => "zero"
  | .one => "one"
  | .two => "two"
  | .few => "few"
  | .many => "many"
  | .other => "other"

/-- Counting or ranking. -/
inductive Kind where
  | cardinal
  | ordinal
deriving DecidableEq, Repr

/-- Rules: the category of each number, which is known by its operands. -/
abbrev Rules := Operands → Category

/-- A source of rules has those of a locale, or gives the tag of a locale
for which it has none. -/
abbrev Source := Kind → Locale → Except String Rules

end MessageCatalog.Plural
