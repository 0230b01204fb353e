/-
The shortest decimal that reads back as a given double.

A double stands for the reals that round to it: those between the two
midpoints to its neighbours, the midpoints included exactly when the
significand is even. The numeral chosen is the first hit of this
interval on the decimal grids `10 ^ scale`, coarsest grid first; of two
hits on one grid the nearer wins, and an exact tie goes as the caller
says. All comparisons are between natural numbers.
-/
import MessageCatalog.Decimal.Binary

namespace MessageCatalog.Decimal

/-- The magnitude `digits * 10 ^ scale` in decimal. -/
structure Numeral where
  digits : Nat
  scale : Int
deriving DecidableEq, Repr

/-- How many decimal digits a natural number has; zero has one. -/
def digitCount (n : Nat) : Nat := (Nat.toDigits 10 n).length

/-- The exponent of the leading digit. -/
def Numeral.leading (n : Numeral) : Int := n.scale + ((digitCount n.digits : Int) - 1)

/-- Which of two equally near numerals is chosen. -/
inductive Tie where
  | upward
  | even
deriving DecidableEq, Repr

/-- The reals that round to a double, as whole numbers over a common
denominator: `low / den` to `high / den` around `value / den`. -/
structure Interval where
  low : Nat
  value : Nat
  high : Nat
  den : Nat
  closed : Bool

/-- The interval of a magnitude. The gap below a power of two is half
the gap above it, unless the exponent is already the least. -/
def Interval.ofMagnitude (m : Magnitude) : Interval :=
  let unit := twoTo (m.exponent - 2).toNat
  let below := if m.significand = twoTo 52 ∧ m.exponent ≠ -1074 then 1 else 2
  { low := (4 * m.significand - below) * unit
    value := 4 * m.significand * unit
    high := (4 * m.significand + 2) * unit
    den := twoTo (2 - m.exponent).toNat
    closed := m.significand % 2 = 0 }

namespace Interval

/-- The interval with its bounds multiplied so that a whole number `c`
on the grid `10 ^ scale` compares with them as `c * den`. -/
def onGrid (i : Interval) (scale : Int) : Interval :=
  let up := tenTo (-scale).toNat
  { i with
    low := i.low * up
    value := i.value * up
    high := i.high * up
    den := i.den * tenTo scale.toNat }

/-- Whether the whole number lies in the interval. -/
def contains (i : Interval) (c : Nat) : Bool :=
  if i.closed then i.low ≤ c * i.den ∧ c * i.den ≤ i.high
  else i.low < c * i.den ∧ c * i.den < i.high

/-- The hit among the two neighbours of the value, the nearer one if
both hit. -/
def hit? (i : Interval) (tie : Tie) : Option Nat :=
  let c := i.value / i.den
  match i.contains c, i.contains (c + 1) with
  | false, false => none
  | true, false => some c
  | false, true => some (c + 1)
  | true, true =>
    match compare (2 * i.value) ((2 * c + 1) * i.den) with
    | .lt => some c
    | .gt => some (c + 1)
    | .eq =>
      match tie with
      | .upward => some (c + 1)
      | .even => if c % 2 = 0 then some c else some (c + 1)

end Interval

/-- The scale of the leading digit of a positive magnitude. No positive
double is below `10 ^ -330`. -/
def leadingScale (m : Magnitude) : Int :=
  (digitCount (m.num * tenTo 330 / m.den) : Int) - 331

/-- The numeral without its trailing zeros, `fuel` at most. -/
def Numeral.strip : Nat → Numeral → Numeral
  | 0, n => n
  | fuel + 1, n =>
    if n.digits % 10 = 0 ∧ n.digits ≠ 0 then
      strip fuel ⟨n.digits / 10, n.scale + 1⟩
    else n

/-- The shortest numeral that reads back as the magnitude. Seventeen
digits always suffice, so the last alternative is never taken. -/
def shortest (tie : Tie) (m : Magnitude) : Numeral :=
  if m.significand = 0 then ⟨0, 0⟩
  else
    let lead := leadingScale m
    let interval := Interval.ofMagnitude m
    let onGrid (n : Nat) : Option Numeral :=
      let scale := lead - n
      (interval.onGrid scale).hit? tie |>.map (⟨·, scale⟩)
    (((List.range 17).findSome? onGrid).getD ⟨m.num / m.den, 0⟩).strip 20

end MessageCatalog.Decimal
