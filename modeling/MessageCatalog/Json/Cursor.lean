/-
Reading the words of a JSON text.

A cursor is what is left of a text and the place where that begins. The
readers here take one word off it: a string, a number, a name, a mark
between words. A fault at a character is placed behind that character's
first byte, a fault at the end of the text at the end.
-/
import MessageCatalog.Json.Fault
import MessageCatalog.Decimal.Reader
import MessageCatalog.Text.Measure

namespace MessageCatalog.Json

/-- What is left of a text, and the place where it begins. -/
structure Cursor where
  rest : List Char
  place : Place

namespace Cursor

/-- The start of a text. -/
def start (text : List Char) : Cursor := ⟨text, .start⟩

/-- The cursor behind a character and the rest of its text. -/
def past (c : Cursor) (ch : Char) (rest : List Char) : Cursor := ⟨rest, c.place.after ch⟩

/-- The place behind the next byte, or the end of the text. -/
def ahead (c : Cursor) : Place :=
  match c.rest with
  | [] => c.place
  | '\n' :: _ => ⟨c.place.line + 1, 0⟩
  | _ :: _ => ⟨c.place.line, c.place.column + 1⟩

/-- A fault behind what has been read. -/
def fault {α : Type} (c : Cursor) (p : Problem) : Except Fault α := .error ⟨p, some c.place⟩

/-- A fault at the next character. -/
def faultAhead {α : Type} (c : Cursor) (p : Problem) : Except Fault α :=
  .error ⟨p, some c.ahead⟩

/-- Whether the character may stand between words. -/
def isBlank (ch : Char) : Bool := ch = ' ' || ch = '\t' || ch = '\n' || ch = '\r'

/-- The cursor behind blanks. -/
def skipBlanksFrom (place : Place) : List Char → Cursor
  | [] => ⟨[], place⟩
  | ch :: rest => if isBlank ch then skipBlanksFrom (place.after ch) rest else ⟨ch :: rest, place⟩

/-- The cursor behind blanks. -/
def skipBlanks (c : Cursor) : Cursor := skipBlanksFrom c.place c.rest

/-- Takes a given word. -/
def word (c : Cursor) : List Char → Except Fault Cursor
  | [] => .ok c
  | w :: ws =>
    match c.rest with
    | [] => c.fault .endOfValue
    | ch :: rest => if ch = w then (c.past ch rest).word ws else c.faultAhead .expectedWord

/-- Takes digits off the cursor. -/
def digitsFrom (place : Place) : List Char → List Char × Cursor
  | [] => ([], ⟨[], place⟩)
  | ch :: rest =>
    if Decimal.isDigit ch then
      let (ds, c) := digitsFrom (place.after ch) rest
      (ch :: ds, c)
    else ([], ⟨ch :: rest, place⟩)

/-- Takes digits off the cursor. -/
def digits (c : Cursor) : List Char × Cursor := digitsFrom c.place c.rest

end Cursor

-- ============================================================= numbers

/-- The greatest whole number kept exactly while digits are read. -/
def maxSignificand : Nat := Decimal.twoTo 64 - 1

/-- Takes digits into a whole number while it stays within bounds. The
result is the number and how many digits it took. -/
def significand (n : Nat) : List Char → Nat × Nat
  | [] => (n, 0)
  | d :: rest =>
    let next := 10 * n + (d.toNat - 48)
    if next ≤ maxSignificand then
      let (m, taken) := significand next rest
      (m, taken + 1)
    else (n, 0)

/-- A power of ten as a double. -/
def powerOfTen (e : Nat) : Float := Float.ofScientific 1 false e

/-- A double times a power of ten, in one multiplication or division when
the power is itself a double, and by further divisions below that. None
if the product is infinite. -/
def scale (x : Float) : (steps : Nat) → Int → Option Float
  | steps, e =>
    if e.natAbs ≤ 308 then
      if 0 ≤ e then
        let y := x * powerOfTen e.natAbs
        if Decimal.isFinite y then some y else none
      else some (x / powerOfTen e.natAbs)
    else if x == 0 then some x
    else if 0 ≤ e then none
    else
      match steps with
      | 0 => some 0
      | steps + 1 => scale (x / powerOfTen 308) steps (e + 308)

/-- The written form of a number. -/
structure NumberText where
  negative : Bool
  whole : List Char
  /-- The digits behind the point, if there is a point. -/
  fraction : Option (List Char)
  /-- Whether the exponent is negative, and its digits, if there is one. -/
  exponent : Option (Bool × List Char)

/-- The greatest exponent that is read. -/
def maxExponent : Nat := Decimal.twoTo 31 - 1

/-- The double of a number text that is not simply a whole number within
sixty-four bits. The digits count as long as they fit sixty-four bits;
whole digits beyond that only move the point. -/
def NumberText.double? (t : NumberText) : Option Float :=
  let (m, taken) := significand 0 t.whole
  let dropped := t.whole.length - taken
  let (m, shift) :=
    match t.fraction with
    | some fraction =>
      let (m, more) := significand m fraction
      (m, (dropped : Int) - more)
    | none => (m, (dropped : Int))
  let e : Int :=
    match t.exponent with
    | some (negative, ds) =>
      if negative then shift - Decimal.digitsValue ds else shift + Decimal.digitsValue ds
    | none => shift
  (scale (Float.ofScientific m false 0) 3 e).map fun x => if t.negative then -x else x

/-- The document of a number text; none if the number is out of range. -/
def NumberText.json? (t : NumberText) : Option Json :=
  let n := Decimal.digitsValue t.whole
  if t.fraction.isNone ∧ t.exponent.isNone then
    if t.negative then
      if n = 0 then some (.decimal (-0))
      else if n ≤ Decimal.twoTo 63 then some (.integer (-n))
      else t.double?.map .decimal
    else if n ≤ maxSignificand then some (.integer n)
    else t.double?.map .decimal
  else t.double?.map .decimal

namespace Cursor

/-- Takes a point and digits, if there is a point. -/
def fraction (atEnd : Problem) (c : Cursor) : Except Fault (Option (List Char) × Cursor) :=
  match c.rest with
  | '.' :: rest =>
    match (c.past '.' rest).digits with
    | ([], c) =>
      match c.rest with
      | [] => c.fault atEnd
      | _ :: _ => c.faultAhead .invalidNumber
    | (ds, c) => .ok (some ds, c)
  | _ => .ok (none, c)

/-- Takes a sign. -/
def sign (c : Cursor) : Bool × Cursor :=
  match c.rest with
  | '+' :: rest => (false, c.past '+' rest)
  | '-' :: rest => (true, c.past '-' rest)
  | _ => (false, c)

/-- Takes an exponent, if there is one. -/
def exponent (atEnd : Problem) (c : Cursor) : Except Fault (Option (Bool × List Char) × Cursor) :=
  match c.rest with
  | ch :: rest =>
    if ch = 'e' ∨ ch = 'E' then
      let (negative, c) := (c.past ch rest).sign
      match c.digits with
      | ([], c) =>
        match c.rest with
        | [] => c.fault atEnd
        | _ :: _ => c.faultAhead .invalidNumber
      | (ds, c) => .ok (some (negative, ds), c)
    else .ok (none, c)
  | [] => .ok (none, c)

/-- Takes the digits before the point: a lone zero, or digits of which
the first is not zero. -/
def whole (atEnd : Problem) (c : Cursor) : Except Fault (List Char × Cursor) :=
  match c.rest with
  | [] => c.fault atEnd
  | '0' :: rest =>
    let c := c.past '0' rest
    match rest with
    | d :: _ => if Decimal.isDigit d then c.faultAhead .invalidNumber else .ok (['0'], c)
    | [] => .ok (['0'], c)
  | ch :: _ => if Decimal.isDigit ch then .ok c.digits else c.faultAhead .invalidNumber

/-- Takes the written form of a number. -/
def numberText (atEnd : Problem) (c : Cursor) : Except Fault (NumberText × Cursor) := do
  let (negative, c) :=
    match c.rest with
    | '-' :: rest => (true, c.past '-' rest)
    | _ => (false, c)
  let (w, c) ← c.whole atEnd
  let (f, c) ← c.fraction atEnd
  let (e, c) ← c.exponent atEnd
  return (⟨negative, w, f, e⟩, c)

/-- Whether a number stops being read at an exponent that is too great,
and behind how many of its digits. -/
def exponentOverflow? (t : NumberText) : Option Nat :=
  match t.exponent with
  | some (_, ds) =>
    (List.range (ds.length + 1)).find? fun n =>
      decide (maxExponent < Decimal.digitsValue (ds.take n))
  | none => none

/-- Takes a number. -/
def number (c : Cursor) : Except Fault (Json × Cursor) := do
  let (t, after) ← c.numberText .endOfValue
  match exponentOverflow? t with
  | some n =>
    let digits := (t.exponent.map (·.2)).getD []
    let zero := (significand 0 (t.whole ++ t.fraction.getD [])).1 = 0
    if !zero ∧ (t.exponent.map (·.1)) = some false then
      .error ⟨.numberOutOfRange,
        some ⟨after.place.line, after.place.column - (digits.length - n)⟩⟩
    else return (.decimal (if t.negative then -0 else 0), after)
  | none =>
    match t.json? with
    | some j => return (j, after)
    | none => after.fault .numberOutOfRange

-- ============================================================= strings

/-- The value of a hexadecimal digit. -/
def hexValue? (c : Char) : Option Nat :=
  if '0' ≤ c ∧ c ≤ '9' then some (c.toNat - 48)
  else if 'a' ≤ c ∧ c ≤ 'f' then some (c.toNat - 87)
  else if 'A' ≤ c ∧ c ≤ 'F' then some (c.toNat - 55)
  else none

/-- The place a number of bytes on, inside the given text. -/
def bytesOn (place : Place) : List Char → (bytes : Nat) → Place
  | [], _ => place
  | ch :: rest, bytes =>
    if bytes = 0 then place
    else if ch.utf8Size ≤ bytes then bytesOn (place.after ch) rest (bytes - ch.utf8Size)
    else ⟨place.line, place.column + bytes⟩

/-- Takes four hexadecimal digits. -/
def hexEscape (c : Cursor) : Except Fault (Nat × Cursor) :=
  if Text.byteLength (c.rest.take 4) < 4 then
    .error ⟨.endOfString, some (bytesOn c.place c.rest (Text.byteLength c.rest))⟩
  else
    let malformed : Except Fault (Nat × Cursor) :=
      .error ⟨.invalidEscape, some (bytesOn c.place c.rest 4)⟩
    match c.rest with
    | a :: b :: d :: e :: rest =>
      match hexValue? a, hexValue? b, hexValue? d, hexValue? e with
      | some a, some b, some d, some e =>
        .ok (((a * 16 + b) * 16 + d) * 16 + e, ⟨rest, ⟨c.place.line, c.place.column + 4⟩⟩)
      | _, _, _, _ => malformed
    | _ => malformed

/-- Takes the second half of a character written as two halves, of which
the first has been taken. -/
def secondHalf (first : Nat) (c : Cursor) : Except Fault (Char × Cursor) :=
  match c.rest with
  | [] => c.fault .endOfString
  | '\\' :: rest =>
    let c := c.past '\\' rest
    match c.rest with
    | [] => c.fault .endOfString
    | 'u' :: rest => do
      let (second, c) ← (c.past 'u' rest).hexEscape
      if 0xdc00 ≤ second ∧ second ≤ 0xdfff then
        return (Char.ofNat (0x10000 + (first - 0xd800) * 0x400 + (second - 0xdc00)), c)
      else c.fault .loneSurrogate
    | _ => c.faultAhead .endOfEscape
  | _ => c.faultAhead .endOfEscape

/-- Takes what follows a backslash. -/
def escaped (c : Cursor) : Except Fault (Char × Cursor) :=
  match c.rest with
  | [] => c.fault .endOfString
  | 'u' :: rest => do
    let (n, c) ← (c.past 'u' rest).hexEscape
    if 0xdc00 ≤ n ∧ n ≤ 0xdfff then c.fault .loneSurrogate
    else if 0xd800 ≤ n ∧ n ≤ 0xdbff then c.secondHalf n
    else return (Char.ofNat n, c)
  | ch :: rest =>
    let plain : Option Char :=
      match ch with
      | '\x22' => some '\x22'
      | '\\' => some '\\'
      | '/' => some '/'
      | 'b' => some '\x08'
      | 'f' => some '\x0c'
      | 'n' => some '\n'
      | 'r' => some '\r'
      | 't' => some '\t'
      | _ => none
    match plain with
    | some p => .ok (p, c.past ch rest)
    | none => c.faultAhead .invalidEscape

/-- Takes the rest of a string, up to its closing quote. Every step takes
at least one character, so the length of the text is fuel enough. -/
def stringBody : (fuel : Nat) → (taken : List Char) → Cursor → Except Fault (String × Cursor)
  | 0, _, c => c.fault .endOfString
  | fuel + 1, taken, c =>
    match c.rest with
    | [] => c.fault .endOfString
    | ch :: rest =>
      if ch = '\x22' then .ok (String.ofList taken.reverse, c.past ch rest)
      else if ch = '\\' then do
        let (e, c) ← (c.past ch rest).escaped
        stringBody fuel (e :: taken) c
      else if ch.toNat < 32 then (c.past ch rest).fault .controlCharacter
      else stringBody fuel (ch :: taken) (c.past ch rest)

/-- Takes a string whose opening quote has been taken. -/
def string (c : Cursor) : Except Fault (String × Cursor) := stringBody (c.rest.length + 1) [] c

/-- Passes over the rest of a string. Halves of characters may stand alone
in a string that nobody looks at. -/
def skipStringBody : (fuel : Nat) → Cursor → Except Fault Cursor
  | 0, c => c.fault .endOfString
  | fuel + 1, c =>
    match c.rest with
    | [] => c.fault .endOfString
    | ch :: rest =>
      if ch = '\x22' then .ok (c.past ch rest)
      else if ch = '\\' then
        let c := c.past ch rest
        match c.rest with
        | [] => c.fault .endOfString
        | 'u' :: rest => do
          let (_, c) ← (c.past 'u' rest).hexEscape
          skipStringBody fuel c
        | e :: rest =>
          if ['\x22', '\\', '/', 'b', 'f', 'n', 'r', 't'].contains e then
            skipStringBody fuel (c.past e rest)
          else c.faultAhead .invalidEscape
      else if ch.toNat < 32 then c.fault .controlCharacter
      else skipStringBody fuel (c.past ch rest)

/-- Passes over a string whose opening quote has been taken. -/
def skipString (c : Cursor) : Except Fault Cursor := skipStringBody (c.rest.length + 1) c

end Cursor

end MessageCatalog.Json
