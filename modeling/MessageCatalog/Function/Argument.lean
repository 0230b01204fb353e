/-
Arguments of the built-in functions.
-/
import MessageCatalog.Function
import MessageCatalog.Text.Blank
import MessageCatalog.Decimal.Reader

namespace MessageCatalog.Function

/-- The first argument as a number: a number, or a text that denotes one
between optional blanks. -/
def numericArgument (args : List Value) : Except FunctionError Float :=
  match args with
  | [] => .error (.missingArgument 0)
  | .number x :: _ => .ok x
  | .string s :: _ =>
    match Decimal.ofText? (Text.trim s.toList) with
    | some x => .ok x
    | none => .error (.unsupportedArgument ("'" ++ s ++ "' is not a number"))
  | v :: _ => .error (.unsupportedArgument ("'" ++ v.text ++ "' is not a number"))

/-- The first argument as text. The empty value has none. -/
def textArgument (args : List Value) : Except FunctionError String :=
  match args with
  | [] => .error (.missingArgument 0)
  | .null :: _ => .error (.unsupportedArgument "null has no text")
  | v :: _ => .ok v.text

end MessageCatalog.Function
