/-
Inspection: one line that shows what something is made of.

Strings are quoted, numbers show a point or an exponent, and dictionaries
are shown in the order of their names.
-/
import MessageCatalog.Context
import MessageCatalog.Text.Quoted

namespace MessageCatalog

/-- Texts between brackets. -/
def inspectList (texts : List String) : String := "[" ++ ", ".intercalate texts ++ "]"

mutual

/-- A value as inspection shows it. -/
def Value.inspect : Value → String
  | .null => "Null"
  | .boolean b => "Boolean(" ++ Literal.booleanText b ++ ")"
  | .number x => "Number(" ++ Decimal.inspect x ++ ")"
  | .string s => "String(" ++ Text.quoted s ++ ")"
  | .list items => "List([" ++ inspectItems true items ++ "])"
  | .map pairs => "Map(\x7b" ++ inspectPairs true pairs ++ "\x7d)"

/-- Items, each but the first after a comma and a blank. -/
def inspectItems (first : Bool) : List Value → String
  | [] => ""
  | v :: rest => (if first then "" else ", ") ++ v.inspect ++ inspectItems false rest

/-- Pairs, each but the first after a comma and a blank. -/
def inspectPairs (first : Bool) : List (String × Value) → String
  | [] => ""
  | (name, v) :: rest =>
    (if first then "" else ", ") ++ Text.quoted name ++ ": " ++ v.inspect
      ++ inspectPairs false rest

end

/-- The visible variables of a scope. -/
def Scope.inspect (s : Scope) : String := "\x7b" ++ inspectPairs true s.flatten ++ "\x7d"

/-- The names of the functions of both kinds. -/
def Functions.inspect (f : Functions) : String :=
  "Runtime \x7b format: " ++ inspectList ((f.names .format).map Text.quoted)
    ++ ", select: " ++ inspectList ((f.names .select).map Text.quoted) ++ " \x7d"

/-- A context but for its messages. -/
def Context.inspect (ctx : Context) : String :=
  "Context \x7b locales: " ++ inspectList (ctx.locales.map Text.quoted)
    ++ ", runtime: " ++ ctx.functions.inspect
    ++ ", resource_id: " ++
      (match ctx.resourceId with
      | some id => "Some(" ++ Text.quoted id ++ ")"
      | none => "None")
    ++ ", scope: " ++ ctx.scope.inspect
    ++ ", max_depth: " ++ toString ctx.maxDepth ++ ", .. \x7d"

end MessageCatalog
