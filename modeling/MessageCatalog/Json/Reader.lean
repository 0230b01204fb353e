/-
Reading JSON documents.

A text is read strictly from front to back, and the first thing wrong
with it is its fault. Arrays and objects may be nested up to a fixed
depth. What is inside an array or object is read by one function for
each of its items or members; records that look at the members of a text
one by one (in `Wire`) use the same steps as the reader of documents.

Every step takes at least one character off the text, so the length of
the text bounds how many there are; the readers carry that bound as
fuel.
-/
import MessageCatalog.Json.Cursor

namespace MessageCatalog.Json

/-- How many arrays and objects may be nested in each other. -/
def maxNesting : Nat := 127

namespace Cursor

/-- What stands between an array's opening bracket or an item and the item
after it: nothing or a comma. The result says whether an item follows;
if not, the cursor stands at the closing bracket. -/
def nextItem (first : Bool) (c : Cursor) : Except Fault (Bool × Cursor) :=
  let c := c.skipBlanks
  match c.rest with
  | [] => c.fault .endOfList
  | ch :: rest =>
    if ch = ']' then .ok (false, c)
    else if first then .ok (true, c)
    else if ch = ',' then
      let c := (c.past ch rest).skipBlanks
      match c.rest with
      | [] => c.fault .endOfValue
      | ch :: _ => if ch = ']' then c.faultAhead .trailingComma else .ok (true, c)
    else c.faultAhead .expectedListCommaOrEnd

/-- What stands between an object's opening brace or a member and the
member after it, and that member's name. If no member follows, the
cursor stands at the closing brace. -/
def nextName (first : Bool) (c : Cursor) : Except Fault (Option String × Cursor) :=
  let c := c.skipBlanks
  match c.rest with
  | [] => c.fault .endOfObject
  | ch :: rest =>
    if ch = '\x7d' then .ok (none, c)
    else if first then
      if ch = '\x22' then (c.past ch rest).string.map fun (name, c) => (some name, c)
      else c.faultAhead .keyNotString
    else if ch = ',' then
      let c := (c.past ch rest).skipBlanks
      match c.rest with
      | [] => c.fault .endOfValue
      | ch :: rest =>
        if ch = '\x22' then (c.past ch rest).string.map fun (name, c) => (some name, c)
        else if ch = '\x7d' then c.faultAhead .trailingComma
        else c.faultAhead .keyNotString
    else c.faultAhead .expectedObjectCommaOrEnd

/-- Takes the colon behind a name. -/
def colon (c : Cursor) : Except Fault Cursor :=
  let c := c.skipBlanks
  match c.rest with
  | [] => c.fault .endOfObject
  | ch :: rest => if ch = ':' then .ok (c.past ch rest) else c.faultAhead .expectedColon

/-- Takes the closing bracket at which the cursor stands; a comma there
means that the array has more items than are wanted. -/
def closeArray (c : Cursor) : Except Fault Cursor :=
  let c := c.skipBlanks
  match c.rest with
  | [] => c.fault .endOfList
  | ch :: rest =>
    if ch = ']' then .ok (c.past ch rest)
    else if ch = ',' then
      let c := (c.past ch rest).skipBlanks
      match c.rest with
      | ']' :: _ => c.faultAhead .trailingComma
      | _ => c.faultAhead .trailingCharacters
    else c.faultAhead .trailingCharacters

/-- Takes the closing brace at which the cursor stands. -/
def closeObject (c : Cursor) : Except Fault Cursor :=
  let c := c.skipBlanks
  match c.rest with
  | [] => c.fault .endOfObject
  | ch :: rest =>
    if ch = '\x7d' then .ok (c.past ch rest)
    else if ch = ',' then c.faultAhead .trailingComma
    else c.faultAhead .trailingCharacters

/-- A fault of an array's shape. It is placed behind what has been read
and what would close or continue the array there. -/
def faultInArray {α : Type} (c : Cursor) (p : Problem) : Except Fault α :=
  let c := c.skipBlanks
  match c.rest with
  | ch :: rest =>
    if ch = ']' then (c.past ch rest).fault p
    else if ch = ',' then (c.past ch rest).skipBlanks.fault p
    else c.fault p
  | [] => c.fault p

/-- A fault of an object's shape. It is placed behind what has been read
and what would close the object there. -/
def faultInObject {α : Type} (c : Cursor) (p : Problem) : Except Fault α :=
  let c := c.skipBlanks
  match c.rest with
  | ch :: rest => if ch = '\x7d' then (c.past ch rest).fault p else c.fault p
  | [] => c.fault p

/-- Takes a document that holds no other, beginning with the given
character. -/
def scalar (c : Cursor) (ch : Char) (rest : List Char) : Except Fault (Json × Cursor) :=
  if ch = 'n' then (c.word ['n', 'u', 'l', 'l']).map fun c => (.null, c)
  else if ch = 't' then (c.word ['t', 'r', 'u', 'e']).map fun c => (.bool true, c)
  else if ch = 'f' then (c.word ['f', 'a', 'l', 's', 'e']).map fun c => (.bool false, c)
  else if ch = '-' ∨ Decimal.isDigit ch then c.number
  else if ch = '\x22' then (c.past ch rest).string.map fun (s, c) => (.string s, c)
  else c.faultAhead .expectedValue

mutual

/-- Takes a document inside at most `room` more arrays and objects. -/
def json : (fuel : Nat) → (room : Nat) → Cursor → Except Fault (Json × Cursor)
  | 0, _, c => c.fault .tooDeep
  | fuel + 1, room, c =>
    let c := c.skipBlanks
    match c.rest with
    | [] => c.fault .endOfValue
    | ch :: rest =>
      if ch = '[' then
        match room with
        | 0 => c.faultAhead .tooDeep
        | room + 1 => (items fuel room true (c.past ch rest)).map fun (js, c) => (.array js, c)
      else if ch = '\x7b' then
        match room with
        | 0 => c.faultAhead .tooDeep
        | room + 1 =>
          (members fuel room true (c.past ch rest)).map fun (ms, c) => (.object ms, c)
      else scalar c ch rest

/-- Takes the items of an array and its closing bracket. -/
def items : (fuel : Nat) → (room : Nat) → (first : Bool) → Cursor →
    Except Fault (List Json × Cursor)
  | 0, _, _, c => c.fault .tooDeep
  | fuel + 1, room, first, c => do
    let (more, c) ← c.nextItem first
    if more then
      let (j, c) ← json fuel room c
      let (js, c) ← items fuel room false c
      return (j :: js, c)
    else
      let c ← c.closeArray
      return ([], c)

/-- Takes the members of an object and its closing brace. -/
def members : (fuel : Nat) → (room : Nat) → (first : Bool) → Cursor →
    Except Fault (List (String × Json) × Cursor)
  | 0, _, _, c => c.fault .tooDeep
  | fuel + 1, room, first, c => do
    let (name?, c) ← c.nextName first
    match name? with
    | some name =>
      let c ← c.colon
      let (j, c) ← json fuel room c
      let (ms, c) ← members fuel room false c
      return ((name, j) :: ms, c)
    | none =>
      let c ← c.closeObject
      return ([], c)

end

/-- Fuel for what is left of the text. -/
def fuel (c : Cursor) : Nat := 2 * c.rest.length + 2

/-- Takes a document inside at most `room` more arrays and objects. -/
def document (room : Nat) (c : Cursor) : Except Fault (Json × Cursor) := json c.fuel room c

/-- Makes sure that only blanks are left. -/
def finish {α : Type} (c : Cursor) (x : α) : Except Fault α :=
  let c := c.skipBlanks
  match c.rest with
  | [] => .ok x
  | _ :: _ => c.faultAhead .trailingCharacters

-- ============================================================ skipping

/-- Passes over a document that holds no other. Numbers that nobody looks
at may be out of range. -/
def skipScalar (c : Cursor) (ch : Char) (rest : List Char) : Except Fault Cursor :=
  if ch = 'n' then c.word ['n', 'u', 'l', 'l']
  else if ch = 't' then c.word ['t', 'r', 'u', 'e']
  else if ch = 'f' then c.word ['f', 'a', 'l', 's', 'e']
  else if ch = '-' ∨ Decimal.isDigit ch then
    (c.numberText .invalidNumber).map fun (_, c) => c
  else if ch = '\x22' then (c.past ch rest).skipString
  else c.faultAhead .expectedValue

mutual

/-- Passes over a document. -/
def skipJson : (fuel : Nat) → Cursor → Except Fault Cursor
  | 0, c => c.fault .tooDeep
  | fuel + 1, c =>
    let c := c.skipBlanks
    match c.rest with
    | [] => c.fault .endOfValue
    | ch :: rest =>
      if ch = '[' then skipItems fuel true (c.past ch rest)
      else if ch = '\x7b' then skipMembers fuel true (c.past ch rest)
      else skipScalar c ch rest

/-- Passes over the items of an array and its closing bracket. -/
def skipItems : (fuel : Nat) → (first : Bool) → Cursor → Except Fault Cursor
  | 0, _, c => c.fault .tooDeep
  | fuel + 1, first, c =>
    let c := c.skipBlanks
    match c.rest with
    | [] => c.fault .endOfList
    | ch :: rest =>
      if ch = ']' then .ok (c.past ch rest)
      else if first then do
        let c ← skipJson fuel c
        skipItems fuel false c
      else if ch = ',' then do
        let c ← skipJson fuel (c.past ch rest)
        skipItems fuel false c
      else c.faultAhead .expectedListCommaOrEnd

/-- Passes over the members of an object and its closing brace. -/
def skipMembers : (fuel : Nat) → (first : Bool) → Cursor → Except Fault Cursor
  | 0, _, c => c.fault .tooDeep
  | fuel + 1, first, c =>
    let c := c.skipBlanks
    match c.rest with
    | [] => c.fault .endOfObject
    | ch :: rest =>
      if ch = '\x7d' then .ok (c.past ch rest)
      else if first ∨ ch = ',' then
        let c := if first then c else (c.past ch rest).skipBlanks
        match c.rest with
        | [] => c.fault .endOfObject
        | ch :: rest =>
          if ch = '\x22' then do
            let c ← (c.past ch rest).skipString
            let c ← c.colon
            let c ← skipJson fuel c
            skipMembers fuel false c
          else c.faultAhead .keyNotString
      else c.faultAhead .expectedObjectCommaOrEnd

end

/-- Passes over a document. -/
def skip (c : Cursor) : Except Fault Cursor := skipJson c.fuel c

-- ====================================================== wanted scalars

/-- A fault for a document of another type. A scalar is read first, so
that the fault can name it and stand behind it. -/
def wrongType {α : Type} (c : Cursor) (expected : String) : Except Fault α :=
  let c := c.skipBlanks
  match c.rest with
  | [] => c.fault .endOfValue
  | ch :: rest =>
    if ch = '[' then c.fault (.wrongType .sequence expected)
    else if ch = '\x7b' then c.fault (.wrongType .map expected)
    else do
      let (j, c) ← scalar c ch rest
      c.fault (.wrongType (found j) expected)

/-- Takes a document that is a string. -/
def stringValue (expected : String) (c : Cursor) : Except Fault (String × Cursor) :=
  let c := c.skipBlanks
  match c.rest with
  | [] => c.fault .endOfValue
  | ch :: rest => if ch = '\x22' then (c.past ch rest).string else c.wrongType expected

end Cursor

/-- Reads a text that is one document. -/
def ofText (text : String) : Except Fault Json := do
  let (j, c) ← (Cursor.start text.toList).document maxNesting
  c.finish j

end MessageCatalog.Json
