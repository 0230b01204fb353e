/-
How a numeral is written.

The digits of a double are chosen in `Decimal.Shortest`; a `Notation`
holds the decisions that are left: where positional writing ends,
whether a whole number shows a fraction, how an exponent is signed and
which of two equally near numerals is meant. The program has three
notations, one for text, one for inspection and one for the wire (in
`Json.Printer`).
-/
import MessageCatalog.Decimal.Shortest

namespace MessageCatalog.Decimal

/-- Writing decisions of one format. -/
structure Style where
  tie : Tie
  /-- The exponents of the leading digit that are written without `e`. -/
  positional : Int → Bool
  /-- What a whole number written without `e` ends in. -/
  wholeSuffix : String
  /-- What stands before an exponent that is not negative. -/
  exponentPlus : String

/-- The decimal digits of a natural number. -/
def digitChars (n : Nat) : List Char := Nat.toDigits 10 n

/-- Digits with a point before the last `places` of them; at least one
digit stands before the point. -/
def pointed (places : Nat) (digits : List Char) : List Char :=
  let padded := List.replicate (places + 1 - digits.length) '0' ++ digits
  let whole := padded.length - places
  padded.take whole ++ '.' :: padded.drop whole

/-- A numeral without an exponent. -/
def Numeral.positional (n : Numeral) (wholeSuffix : String) : List Char :=
  if 0 ≤ n.scale then
    digitChars n.digits ++ List.replicate n.scale.toNat '0' ++ wholeSuffix.toList
  else pointed (-n.scale).toNat (digitChars n.digits)

/-- A numeral with an exponent: one digit before the point, and no point
after a lone digit. -/
def Numeral.scientific (n : Numeral) (exponentPlus : String) : List Char :=
  let mantissa :=
    match digitChars n.digits with
    | [d] => [d]
    | ds => ds.take 1 ++ '.' :: ds.drop 1
  let exponent :=
    if n.leading < 0 then '-' :: digitChars (-n.leading).toNat
    else exponentPlus.toList ++ digitChars n.leading.toNat
  mantissa ++ 'e' :: exponent

/-- A numeral as the style writes it. -/
def Style.numeral (s : Style) (n : Numeral) : List Char :=
  if s.positional n.leading then n.positional s.wholeSuffix
  else n.scientific s.exponentPlus

/-- A minus sign for a negative number. -/
def signed (negative : Bool) (text : List Char) : List Char :=
  if negative then '-' :: text else text

/-- A double as the style writes it. Not-a-number has no sign, negative
zero has one. -/
def Style.write (s : Style) (x : Float) : List Char :=
  match read x with
  | .notANumber => ['N', 'a', 'N']
  | .infinite negative => signed negative ['i', 'n', 'f']
  | .finite negative m => signed negative (s.numeral (shortest s.tie m))

/-- Text shows a number without an exponent and a whole number without a
point. -/
def textStyle : Style where
  tie := .upward
  positional := fun _ => true
  wholeSuffix := ""
  exponentPlus := ""

/-- Inspection shows a point or an exponent in every number, the exponent
from `10 ^ 16` on and below `10 ^ -4`. -/
def inspectStyle : Style where
  tie := .upward
  positional := fun e => -4 ≤ e ∧ e < 16
  wholeSuffix := ".0"
  exponentPlus := ""

/-- A number as text. -/
def text (x : Float) : String := String.ofList (textStyle.write x)

/-- A number as inspection shows it. -/
def inspect (x : Float) : String := String.ofList (inspectStyle.write x)

end MessageCatalog.Decimal
