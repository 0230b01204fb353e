/-
The function `plural`: a number with its plural category.

The result holds both, so that keys can name the number itself or its
category. The rules are those of the first locale whose tag is well
formed, and English ones if there is none.
-/
import MessageCatalog.Function.Argument
import MessageCatalog.Plural.Rules

namespace MessageCatalog.Function

/-- The first usable locale. -/
def pluralLocale (locales : List String) : Locale :=
  (locales.findSome? Locale.ofTag?).getD ⟨"en", none, none, []⟩

/-- Counting or ranking, from the option `type`. -/
def pluralKind (options : Options) : Except FunctionError Plural.Kind :=
  match (Dictionary.get? "type" options).bind Literal.string? with
  | none => .ok .cardinal
  | some "cardinal" => .ok .cardinal
  | some "ordinal" => .ok .ordinal
  | some other =>
    .error (.invalidOption "type" ("expected 'cardinal' or 'ordinal', got '" ++ other ++ "'"))

/-- The category of a number. Infinities and not-a-number have none, and
no number has one in a locale without rules. -/
def pluralCategory (source : Plural.Source) (locales : List String) (kind : Plural.Kind)
    (x : Float) : Except FunctionError Plural.Category :=
  match Plural.Operands.ofNumber? x with
  | some o =>
    match source kind (pluralLocale locales) with
    | .ok rules => .ok (rules o)
    | .error tag => .error (.unsupportedLocale tag)
  | none => .error (.unsupportedArgument (Decimal.text x ++ " has no plural category"))

/-- The function `plural`. -/
def plural (source : Plural.Source) : Function := fun locales options args => do
  let x ← numericArgument args
  let kind ← pluralKind options
  let c ← pluralCategory source locales kind x
  return .list [.number x, .string c.name]

end MessageCatalog.Function
