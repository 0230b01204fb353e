/-
Literals: the constant scalars of a message.
-/
import MessageCatalog.Decimal.Notation

namespace MessageCatalog

/-- A constant that a message holds verbatim. -/
inductive Literal where
  | boolean (value : Bool)
  | number (value : Float)
  | string (value : String)
deriving DecidableEq

namespace Literal

/-- The text of a truth value. -/
def booleanText (b : Bool) : String := if b then "true" else "false"

/-- A literal as text. -/
def text : Literal → String
  | .boolean b => booleanText b
  | .number x => Decimal.text x
  | .string s => s

/-- Whether two literals are equal where numbers are compared as numbers:
zero has one value whatever its sign, and not-a-number equals nothing. -/
def agrees : Literal → Literal → Bool
  | .boolean a, .boolean b => a == b
  | .number a, .number b => a == b
  | .string a, .string b => a == b
  | _, _ => false

/-- The string that a literal is, if it is one. -/
def string? : Literal → Option String
  | .string s => some s
  | _ => none

/-- The number that a literal is, if it is one. -/
def number? : Literal → Option Float
  | .number x => some x
  | _ => none

end Literal

end MessageCatalog
