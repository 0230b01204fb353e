/-
Values: what variables are bound to and what functions return.

Besides the scalars of `Literal` there are an empty value, lists and
dictionaries. A path of keys walks into the containers: lists by whole
numbers, dictionaries by the text of any key.
-/
import MessageCatalog.Dictionary
import MessageCatalog.Literal
import MessageCatalog.Decimal.Reader

namespace MessageCatalog

/-- A value. The pairs of a map are a dictionary. -/
inductive Value where
  | null
  | boolean (value : Bool)
  | number (value : Float)
  | string (value : String)
  | list (items : List Value)
  | map (pairs : List (String × Value))

namespace Value

instance : Inhabited Value := ⟨.null⟩

/-- The value of a literal. -/
def ofLiteral : Literal → Value
  | .boolean b => .boolean b
  | .number x => .number x
  | .string s => .string s

/-- The literal that a value is, if it is a scalar. -/
def literal? : Value → Option Literal
  | .boolean b => some (.boolean b)
  | .number x => some (.number x)
  | .string s => some (.string s)
  | _ => none

/-- Whether the value is a scalar. -/
def isLiteral (v : Value) : Bool := v.literal?.isSome

mutual

/-- A value as text: lists are their items between commas, maps their
pairs between braces. -/
def text : Value → String
  | .null => "null"
  | .boolean b => Literal.booleanText b
  | .number x => Decimal.text x
  | .string s => s
  | .list items => itemsText true items
  | .map pairs => "\x7b" ++ pairsText true pairs ++ "\x7d"

/-- Items, each but the first after a comma. -/
def itemsText (first : Bool) : List Value → String
  | [] => ""
  | v :: rest => (if first then "" else ",") ++ text v ++ itemsText false rest

/-- Pairs, each but the first after a comma and a blank. -/
def pairsText (first : Bool) : List (String × Value) → String
  | [] => ""
  | (name, v) :: rest =>
    (if first then "" else ", ") ++ name ++ ": " ++ text v ++ pairsText false rest

end

/-- A value as text where the empty value leaves nothing behind. -/
def textOrEmpty : Value → String
  | .null => ""
  | v => v.text

-- ============================================================ equality

mutual

/-- Whether two values are equal where numbers are compared as numbers:
zero has one value whatever its sign, and not-a-number equals nothing. -/
def same : Value → Value → Bool
  | .null, .null => true
  | .boolean a, .boolean b => a == b
  | .number a, .number b => a == b
  | .string a, .string b => a == b
  | .list a, .list b => sameItems a b
  | .map a, .map b => samePairs a b
  | _, _ => false

/-- Equality item by item. -/
def sameItems : List Value → List Value → Bool
  | [], [] => true
  | a :: as, b :: bs => same a b && sameItems as bs
  | _, _ => false

/-- Equality pair by pair. -/
def samePairs : List (String × Value) → List (String × Value) → Bool
  | [], [] => true
  | (m, a) :: as, (n, b) :: bs => m == n && same a b && samePairs as bs
  | _, _ => false

end

/-- Whether the value is exactly the literal. -/
def equalsLiteral (v : Value) (key : Literal) : Bool :=
  match v.literal? with
  | some l => l.agrees key
  | none => false

/-- Whether the value is a list with the literal among its items. -/
def containsLiteral (v : Value) (key : Literal) : Bool :=
  match v with
  | .list items => items.any (·.equalsLiteral key)
  | _ => false

-- ============================================================ indexing

/-- The greatest index, the greatest number of sixty-four bits. -/
def maxIndex : Nat := Decimal.twoTo 64 - 1

/-- The index that a text denotes: digits after an optional plus. -/
def indexOfText? (s : String) : Option Nat :=
  let digits :=
    match s.toList with
    | '+' :: rest => rest
    | cs => cs
  if digits ≠ [] ∧ digits.all Decimal.isDigit then
    let n := Decimal.digitsValue digits
    if n ≤ maxIndex then some n else none
  else none

/-- The index that a number denotes: a whole number that is not negative,
cut off at the greatest index. -/
def indexOfNumber? (x : Float) : Option Nat :=
  if 0 ≤ x then (Decimal.wholeMagnitude? x).map (min maxIndex) else none

/-- The index that a value denotes. -/
def index? : Value → Option Nat
  | .number x => indexOfNumber? x
  | .string s => indexOfText? s
  | _ => none

/-- The value under a key: in a map by the text of the key, in a list by
the index that the key denotes, in all else nothing. -/
def get? (v key : Value) : Option Value :=
  match v with
  | .map pairs => Dictionary.get? key.text pairs
  | .list items => key.index?.bind (items[·]?)
  | _ => none

-- ============================================================== views

/-- The number that a value is, if it is one. -/
def number? : Value → Option Float
  | .number x => some x
  | _ => none

/-- The string that a value is, if it is one. -/
def string? : Value → Option String
  | .string s => some s
  | _ => none

/-- The items of a list. -/
def items? : Value → Option (List Value)
  | .list items => some items
  | _ => none

/-- The pairs of a map. -/
def pairs? : Value → Option (List (String × Value))
  | .map pairs => some pairs
  | _ => none

end Value

end MessageCatalog
