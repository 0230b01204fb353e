/-
Writing JSON documents.

The compact form has no blanks; the indented form puts every item and
member on a line of its own. Strings escape the quote, the backslash
and the control characters below the blank and nothing else. Numbers
are the shortest decimal that reads back, written positionally from
`10 ^ -5` up to `10 ^ 16`; infinities and not-a-number have no JSON
form and are written as null.
-/
import MessageCatalog.Json.Basic
import MessageCatalog.Decimal.Notation

namespace MessageCatalog.Json

/-- The wire shows a point or a signed exponent in every number. -/
def wireStyle : Decimal.Style where
  tie := .even
  positional := fun e => -5 ≤ e ∧ e < 16
  wholeSuffix := ".0"
  exponentPlus := "+"

/-- A double as a JSON number. -/
def decimalChars (x : Float) : List Char :=
  if Decimal.isFinite x then wireStyle.write x else ['n', 'u', 'l', 'l']

/-- A whole number as a JSON number. -/
def integerChars (n : Int) : List Char :=
  Decimal.signed (n < 0) (Decimal.digitChars n.natAbs)

/-- One character inside a JSON string. -/
def escapeChar (c : Char) : List Char :=
  if c = '\x22' then ['\\', '\x22']
  else if c = '\\' then ['\\', '\\']
  else if c = '\x08' then ['\\', 'b']
  else if c = '\x0c' then ['\\', 'f']
  else if c = '\n' then ['\\', 'n']
  else if c = '\r' then ['\\', 'r']
  else if c = '\t' then ['\\', 't']
  else if c.toNat < 32 then
    ['\\', 'u', '0', '0', Nat.digitChar (c.toNat / 16), Nat.digitChar (c.toNat % 16)]
  else [c]

/-- The characters of a JSON string between its quotes. -/
def escape (s : List Char) : List Char := s.flatMap escapeChar

/-- A JSON string with its quotes. -/
def quote (s : String) : List Char := '\x22' :: (escape s.toList ++ ['\x22'])

/-- A document that holds no other: all but arrays and objects. -/
def scalarChars : Json → List Char
  | .null => ['n', 'u', 'l', 'l']
  | .bool true => ['t', 'r', 'u', 'e']
  | .bool false => ['f', 'a', 'l', 's', 'e']
  | .integer n => integerChars n
  | .decimal x => decimalChars x
  | .string s => quote s
  | .array _ => []
  | .object _ => []

mutual

/-- The compact form. -/
def chars : Json → List Char
  | .array items => '[' :: (itemChars true items ++ [']'])
  | .object members => '\x7b' :: (memberChars true members ++ ['\x7d'])
  | j => scalarChars j

/-- Items, each but the first after a comma. -/
def itemChars (first : Bool) : List Json → List Char
  | [] => []
  | j :: rest => (if first then [] else [',']) ++ chars j ++ itemChars false rest

/-- Members, each but the first after a comma. -/
def memberChars (first : Bool) : List (String × Json) → List Char
  | [] => []
  | (name, j) :: rest =>
    (if first then [] else [',']) ++ quote name ++ ':' :: chars j ++ memberChars false rest

end

/-- A new line at the given depth of indentation. -/
def newLine (depth : Nat) : List Char := '\n' :: List.replicate (2 * depth) ' '

mutual

/-- The indented form, inside `depth` arrays and objects. -/
def indentedChars (depth : Nat) : Json → List Char
  | .array [] => ['[', ']']
  | .array (j :: rest) =>
    '[' :: (indentedItems (depth + 1) true (j :: rest) ++ newLine depth ++ [']'])
  | .object [] => ['\x7b', '\x7d']
  | .object (m :: rest) =>
    '\x7b' :: (indentedMembers (depth + 1) true (m :: rest) ++ newLine depth ++ ['\x7d'])
  | j => scalarChars j

/-- Items on lines of their own. -/
def indentedItems (depth : Nat) (first : Bool) : List Json → List Char
  | [] => []
  | j :: rest =>
    (if first then [] else [',']) ++ newLine depth ++ indentedChars depth j
      ++ indentedItems depth false rest

/-- Members on lines of their own, a blank after each colon. -/
def indentedMembers (depth : Nat) (first : Bool) : List (String × Json) → List Char
  | [] => []
  | (name, j) :: rest =>
    (if first then [] else [',']) ++ newLine depth ++ quote name ++ ':' :: ' ' ::
      indentedChars depth j ++ indentedMembers depth false rest

end

/-- The compact form as a string. -/
def compact (j : Json) : String := String.ofList j.chars

/-- The indented form as a string. -/
def indented (j : Json) : String := String.ofList (j.indentedChars 0)

end MessageCatalog.Json
