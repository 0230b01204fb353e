/-
JSON documents.

A document keeps what the text said and nothing is normalised: members
stay in their written order, repeated names included, and a whole number
within sixty-four bits is kept apart from the other numbers because the
two are named differently when a document does not have the wanted
shape.
-/
namespace MessageCatalog

/-- A JSON document. -/
inductive Json where
  | null
  | bool (value : Bool)
  | integer (value : Int)
  | decimal (value : Float)
  | string (value : String)
  | array (items : List Json)
  | object (members : List (String × Json))

namespace Json

instance : Inhabited Json := ⟨.null⟩

mutual

/-- How many levels a document has: one more than the arrays and objects
nested in each other. -/
def levels : Json → Nat
  | .array items => levelsOfItems items + 1
  | .object members => levelsOfMembers members + 1
  | _ => 1

/-- The levels of the deepest item. -/
def levelsOfItems : List Json → Nat
  | [] => 0
  | j :: rest => max (levels j) (levelsOfItems rest)

/-- The levels of the deepest member. -/
def levelsOfMembers : List (String × Json) → Nat
  | [] => 0
  | (_, j) :: rest => max (levels j) (levelsOfMembers rest)

end

/-- A natural number as a document. -/
def ofNat (n : Nat) : Json := .integer n

/-- The number that a document is, if it is one. -/
def number? : Json → Option Float
  | .integer n => some (if n < 0 then -Float.ofScientific n.natAbs false 0
      else Float.ofScientific n.natAbs false 0)
  | .decimal x => some x
  | _ => none

/-- The string that a document is, if it is one. -/
def string? : Json → Option String
  | .string s => some s
  | _ => none

/-- The items of a document that is an array. -/
def items? : Json → Option (List Json)
  | .array items => some items
  | _ => none

/-- The members of a document that is an object. -/
def members? : Json → Option (List (String × Json))
  | .object members => some members
  | _ => none

/-- The fields of a record written either as an object, where members
with other names are passed over and none of the fields may be repeated,
or as an array of the fields in order, which may end early but hold no
more than the fields. -/
def fields? (names : List String) : Json → Option (List (Option Json))
  | .object members =>
    names.mapM fun name =>
      match members.filter (·.1 == name) with
      | [] => some none
      | [(_, j)] => some (some j)
      | _ => none
  | .array items =>
    if items.length ≤ names.length then
      some (items.map some ++ List.replicate (names.length - items.length) none)
    else none
  | _ => none

end Json

end MessageCatalog
