/-
The functions that every catalog starts with.
-/
import MessageCatalog.Function.Letters
import MessageCatalog.Function.Number
import MessageCatalog.Function.Plural
import MessageCatalog.Plural.Cldr

namespace MessageCatalog.Functions

/-- The built-in functions, four for formatting and one for selecting, with
a source of plural rules. -/
def builtinWith (source : Plural.Source) : Functions where
  format := [
    ("capitalize", Function.capitalize), ("lower", Function.lower),
    ("number", Function.number), ("upper", Function.upper)]
  select := [("plural", Function.plural source)]

/-- The built-in functions. -/
def builtin : Functions := builtinWith Plural.cldr

end MessageCatalog.Functions
