/-
The exact value of a double.

A finite double is a sign and a magnitude `significand * 2 ^ exponent`.
Every decimal text in the library is chosen by comparing natural
numbers made from these two fields, so no text depends on a rounded
floating-point operation.
-/
import MessageCatalog.Decimal.Power

namespace MessageCatalog.Decimal

/-- The magnitude `significand * 2 ^ exponent`. -/
structure Magnitude where
  significand : Nat
  exponent : Int
deriving DecidableEq, Repr

/-- What a double stands for. -/
inductive Reading where
  | notANumber
  | infinite (negative : Bool)
  | finite (negative : Bool) (magnitude : Magnitude)
deriving DecidableEq, Repr

/-- Whether the sign bit is set; negative zero has it, the one
not-a-number does not. -/
def signBit (x : Float) : Bool := decide (twoTo 63 ≤ x.toBits.toNat)

/-- The eleven exponent bits. -/
def exponentBits (x : Float) : Nat := x.toBits.toNat / twoTo 52 % twoTo 11

/-- The fifty-two fraction bits. -/
def fractionBits (x : Float) : Nat := x.toBits.toNat % twoTo 52

/-- The magnitude encoded by the exponent and fraction bits: numbers
with no exponent bits are subnormal and have no hidden bit. -/
def magnitude (x : Float) : Magnitude :=
  if exponentBits x = 0 then ⟨fractionBits x, -1074⟩
  else ⟨twoTo 52 + fractionBits x, (exponentBits x : Int) - 1075⟩

/-- What the double stands for. -/
def read (x : Float) : Reading :=
  if exponentBits x = 2047 then
    if fractionBits x = 0 then .infinite (signBit x) else .notANumber
  else .finite (signBit x) (magnitude x)

namespace Magnitude

/-- Numerator of the magnitude as a fraction. -/
def num (m : Magnitude) : Nat := m.significand * twoTo m.exponent.toNat

/-- Denominator of the magnitude as a fraction, a power of two. -/
def den (m : Magnitude) : Nat := twoTo (-m.exponent).toNat

theorem den_pos (m : Magnitude) : 0 < m.den := twoTo_pos _

/-- The largest whole number not above the magnitude. -/
def floor (m : Magnitude) : Nat := m.num / m.den

/-- Whether the magnitude is a whole number. -/
def isWhole (m : Magnitude) : Bool := m.num % m.den == 0

end Magnitude

/-- Whether the double is neither infinite nor not-a-number. -/
def isFinite (x : Float) : Bool := exponentBits x != 2047

/-- The whole number that a finite double is, if it is one, without its
sign. -/
def wholeMagnitude? (x : Float) : Option Nat :=
  match read x with
  | .finite _ m => if m.isWhole then some m.floor else none
  | _ => none

end MessageCatalog.Decimal
