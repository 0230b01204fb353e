/-
The function `number`: a number with a chosen count of fraction digits.

The number is rounded to the greatest count allowed, or written with its
shortest digits if none is given. Zeros at the end of the fraction are
dropped down to the least count, and added up to it.
-/
import MessageCatalog.Function.Argument
import MessageCatalog.Decimal.Fixed

namespace MessageCatalog.Function

/-- The greatest count of fraction digits that can be asked for. -/
def maxPlaces : Nat := 20

/-- A count of fraction digits from an option. -/
def placesOption (options : Options) (name : String) : Except FunctionError (Option Nat) :=
  match Dictionary.get? name options with
  | none => .ok none
  | some l =>
    let places? :=
      match l with
      | .number x =>
        if 0 ≤ x then (Decimal.wholeMagnitude? x).filter (· ≤ maxPlaces) else none
      | _ => none
    match places? with
    | some n => .ok (some n)
    | none =>
      .error (.invalidOption name
        ("expected an integer from 0 to 20, got '" ++ l.text ++ "'"))

/-- The texts before and after the point. -/
def splitPoint (s : List Char) : List Char × List Char :=
  (s.takeWhile (· ≠ '.'), (s.dropWhile (· ≠ '.')).drop 1)

/-- Drops zeros from the front, `count` at most. -/
def dropZeros : (count : Nat) → List Char → List Char
  | count + 1, '0' :: rest => dropZeros count rest
  | _, s => s

/-- The fraction without zeros at its end, but with at least `least`
digits. -/
def adjustFraction (least : Nat) (fraction : List Char) : List Char :=
  let kept := (dropZeros (fraction.length - least) fraction.reverse).reverse
  kept ++ List.replicate (least - kept.length) '0'

/-- A decimal text with at least `least` fraction digits and no more zeros
at its end than that takes. A text without a point gets one only with
digits behind it. -/
def adjust (least : Nat) (s : List Char) : List Char :=
  let (whole, fraction) := splitPoint s
  match adjustFraction least fraction with
  | [] => whole
  | digits => whole ++ '.' :: digits

/-- The function `number`. -/
def number : Function := fun _ options args => do
  let x ← numericArgument args
  let least := (← placesOption options "minimumFractionDigits").getD 0
  let most ← placesOption options "maximumFractionDigits"
  let base ←
    match most with
    | none => .ok (Decimal.text x)
    | some most =>
      if most < least then
        .error (.invalidOption "maximumFractionDigits"
          (toString most ++ " is less than minimumFractionDigits " ++ toString least))
      else .ok (Decimal.fixed most x)
  return .string (String.ofList (adjust least base.toList))

end MessageCatalog.Function
