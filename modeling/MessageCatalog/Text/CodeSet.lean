/-
Sets of characters.

A set is given by the code points at which membership changes, in
ascending order: the first bound enters the set, the second leaves it,
and so on. The tables of character properties are such sets.
-/
namespace MessageCatalog.Text

/-- A set of code points, by the points where membership changes. -/
structure CodeSet where
  bounds : List Nat

/-- Membership, started inside or outside the set. -/
def CodeSet.search (inside : Bool) (code : Nat) : List Nat → Bool
  | [] => inside
  | bound :: rest => if code < bound then inside else search (!inside) code rest

/-- Whether the code point is in the set. -/
def CodeSet.contains (s : CodeSet) (code : Nat) : Bool := search false code s.bounds

end MessageCatalog.Text
