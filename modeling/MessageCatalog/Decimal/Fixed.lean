/-
A number with a fixed count of fraction digits.

The exact binary value is rounded, and a value halfway between two
neighbours goes to the even one. The sign of the number stays even when
every digit is zero.
-/
import MessageCatalog.Decimal.Notation

namespace MessageCatalog.Decimal

/-- The nearest whole number to `num / den`, an exact half to even. -/
def roundHalfEven (num den : Nat) : Nat :=
  let q := num / den
  match compare (2 * (num % den)) den with
  | .lt => q
  | .gt => q + 1
  | .eq => if q % 2 = 0 then q else q + 1

/-- The digits of a magnitude rounded to `places` fraction digits. -/
def Magnitude.fixed (m : Magnitude) (places : Nat) : List Char :=
  let digits := digitChars (roundHalfEven (m.num * tenTo places) m.den)
  if places = 0 then digits else pointed places digits

/-- A number with exactly `places` fraction digits; infinities and
not-a-number have none. -/
def fixed (places : Nat) (x : Float) : String :=
  match read x with
  | .finite negative m => String.ofList (signed negative (m.fixed places))
  | _ => text x

end MessageCatalog.Decimal
