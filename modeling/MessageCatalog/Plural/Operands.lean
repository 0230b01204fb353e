/-
Plural operands: what the rules of plural categories look at.

The operands describe the decimal form of a magnitude: its whole part
and its fraction digits. A whole number up to `2 ^ 63` is taken as it
is, cut off at the greatest number of sixty-three bits; any other number
is taken from its shortest decimal form, of which at most eighteen
digits on either side of the point are looked at. A whole part that is
longer keeps its last eighteen digits and a leading one, so that it is
never mistaken for a small number.
-/
import MessageCatalog.Decimal.Notation
import MessageCatalog.Decimal.Reader

namespace MessageCatalog.Plural

/-- The operands of a number. -/
structure Operands where
  /-- The whole part. -/
  whole : Nat
  /-- How many fraction digits there are. -/
  places : Nat
  /-- The fraction digits as a number. -/
  fraction : Nat
  /-- The fraction digits without trailing zeros as a number. -/
  stripped : Nat
deriving DecidableEq, Repr

namespace Operands

/-- The operands of a whole number. -/
def ofWhole (n : Nat) : Operands := ⟨n, 0, 0, 0⟩

/-- Digits without the zeros at the end. -/
def withoutZeros (digits : List Char) : List Char := (digits.reverse.dropWhile (· = '0')).reverse

/-- The operands of an unsigned decimal text. -/
def ofDecimal (s : List Char) : Operands :=
  let digits := s.takeWhile (· ≠ '.')
  let fraction := ((s.dropWhile (· ≠ '.')).drop 1).take 18
  let low := Decimal.digitsValue (digits.drop (digits.length - 18))
  { whole := if digits.length ≤ 18 then low else Decimal.tenTo 18 + low
    places := fraction.length
    fraction := Decimal.digitsValue fraction
    stripped := Decimal.digitsValue (withoutZeros fraction) }

/-- The greatest whole number taken as it is. -/
def maxWhole : Nat := Decimal.twoTo 63 - 1

/-- The operands of a number; only finite numbers have any. -/
def ofNumber? (x : Float) : Option Operands :=
  match Decimal.read x with
  | .finite _ m =>
    if m.isWhole ∧ m.floor ≤ Decimal.twoTo 63 then some (ofWhole (min m.floor maxWhole))
    else
      some (ofDecimal (Decimal.textStyle.numeral (Decimal.shortest Decimal.textStyle.tie m)))
  | _ => none

end Operands

end MessageCatalog.Plural
