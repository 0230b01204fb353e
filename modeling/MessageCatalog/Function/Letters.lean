/-
The functions `upper`, `lower` and `capitalize`.

The letters follow the rules of the first locale that is a plain
identifier; locales with extensions are passed over.
-/
import MessageCatalog.Function.Argument
import MessageCatalog.Locale
import MessageCatalog.Text.Cluster
import MessageCatalog.Text.Letters

namespace MessageCatalog.Function

/-- The rules of the first usable locale. -/
def caseRules (locales : List String) : Text.CaseRules :=
  match locales.findSome? Locale.ofIdentifier? with
  | some l => .ofLanguage l.language
  | none => .common

/-- The function `upper`: the whole text in upper case. -/
def upper : Function := fun locales _ args => do
  let s ← textArgument args
  return .string (String.ofList (Text.upper (caseRules locales) s.toList))

/-- The function `lower`: the whole text in lower case. -/
def lower : Function := fun locales _ args => do
  let s ← textArgument args
  return .string (String.ofList (Text.lower (caseRules locales) s.toList))

/-- The function `capitalize`: the first cluster of the text in upper
case. -/
def capitalize : Function := fun locales _ args => do
  let s ← textArgument args
  let (first, rest) := Text.splitCluster s.toList
  return .string (String.ofList (Text.upper (caseRules locales) first ++ rest))

end MessageCatalog.Function
