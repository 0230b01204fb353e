/-
Sizes of texts.
-/
namespace MessageCatalog.Text

/-- The sum of a size over a list. -/
def total {α : Type} (size : α → Nat) : List α → Nat
  | [] => 0
  | x :: rest => size x + total size rest

/-- The number of bytes of a text. -/
def byteLength (s : List Char) : Nat := total Char.utf8Size s

end MessageCatalog.Text
