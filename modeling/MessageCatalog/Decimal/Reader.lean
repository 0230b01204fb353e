/-
Reading a number from text.

A number is an optional sign followed by digits with an optional point
(at least one digit on either side of it) and an optional exponent, or
by one of the names of the special values in any case. The double is
the one nearest to the decimal value, ties to even; values too large
are infinite and values too small are zero.
-/
import MessageCatalog.Decimal.Shortest

namespace MessageCatalog.Decimal

/-- Whether the character is a decimal digit. -/
def isDigit (c : Char) : Bool := '0' ≤ c && c ≤ '9'

/-- The natural number that a list of digits denotes. -/
def digitsValue (ds : List Char) : Nat :=
  ds.foldl (fun n c => 10 * n + (c.toNat - 48)) 0

/-- The double nearest to `digits * 10 ^ scale`. Where the leading digit
stands more than 400 places from the point the answer is infinite or
zero whatever the digits are. -/
def Numeral.nearest (n : Numeral) : Float :=
  if n.digits = 0 then 0
  else if 400 < n.leading then 1 / 0
  else if n.leading < -400 then 0
  else Float.ofScientific n.digits (n.scale < 0) n.scale.natAbs

/-- A sign and what follows it; no sign means a positive number. -/
def splitSign : List Char → Bool × List Char
  | '-' :: rest => (true, rest)
  | '+' :: rest => (false, rest)
  | rest => (false, rest)

/-- The exponent after the digits: nothing at all, or `e` and a signed
run of digits up to the end. -/
def exponent? : List Char → Option Int
  | [] => some 0
  | e :: rest =>
    if e = 'e' ∨ e = 'E' then
      let (negative, digits) := splitSign rest
      if digits ≠ [] ∧ digits.all isDigit then
        some (if negative then -(digitsValue digits : Int) else digitsValue digits)
      else none
    else none

/-- An unsigned decimal number. -/
def unsigned? (s : List Char) : Option Numeral :=
  let whole := s.takeWhile isDigit
  let rest := s.dropWhile isDigit
  let (fraction, rest) :=
    match rest with
    | '.' :: r => (r.takeWhile isDigit, r.dropWhile isDigit)
    | r => ([], r)
  if whole = [] ∧ fraction = [] then none
  else (exponent? rest).map fun e => ⟨digitsValue (whole ++ fraction), e - fraction.length⟩

/-- The special values by name. -/
def special? (s : List Char) : Option Float :=
  match s.map Char.toLower with
  | ['n', 'a', 'n'] => some (0 / 0)
  | ['i', 'n', 'f'] => some (1 / 0)
  | ['i', 'n', 'f', 'i', 'n', 'i', 't', 'y'] => some (1 / 0)
  | _ => none

/-- The number that a text denotes, if it denotes one. -/
def ofText? (s : List Char) : Option Float :=
  let (negative, body) := splitSign s
  (special? body <|> (unsigned? body).map Numeral.nearest).map fun x => if negative then -x else x

end MessageCatalog.Decimal
