/-
Records read member by member.

A record at the top of a text is not read as a document first: its
members are looked at while the text is read, so that a fault of its
shape is found, and placed, before any fault behind it.
-/
import MessageCatalog.Json.Reader

namespace MessageCatalog.Json.Cursor

variable {σ α : Type}

/-- Takes members one by one. Each step gets what the members before have
left, the name of the member and the cursor behind the name; in the end
the cursor stands at the closing brace. -/
def eachMember (step : σ → String → Cursor → Except Fault (σ × Cursor)) :
    (fuel : Nat) → (first : Bool) → σ → Cursor → Except Fault (σ × Cursor)
  | 0, _, _, c => c.fault .tooDeep
  | fuel + 1, first, s, c => do
    let (name?, c) ← c.nextName first
    match name? with
    | none => return (s, c)
    | some name =>
      let (s, c) ← step s name c
      eachMember step fuel false s c

/-- Passes over a member whose name nobody asks for. -/
def skipMember (s : σ) (c : Cursor) : Except Fault (σ × Cursor) := do
  let c ← c.colon
  let c ← c.skip
  return (s, c)

/-- Enters an object, if one more may be entered, and gives the room left
inside and the cursor behind the brace. -/
def enter (room : Nat) (ch : Char) (rest : List Char) (c : Cursor) :
    Except Fault (Nat × Cursor) :=
  match room with
  | 0 => c.faultAhead .tooDeep
  | room + 1 => .ok (room, c.past ch rest)

/-- Takes a record, which is an object or an array. -/
def record (room : Nat) (expected : String)
    (ofObject ofArray : (room : Nat) → Cursor → Except Fault (α × Cursor)) (c : Cursor) :
    Except Fault (α × Cursor) :=
  let c := c.skipBlanks
  match c.rest with
  | [] => c.fault .endOfValue
  | ch :: rest =>
    if ch = '\x7b' then do
      let (room, c) ← c.enter room ch rest
      let (x, c) ← ofObject room c
      return (x, ← c.closeObject)
    else if ch = '[' then do
      let (room, c) ← c.enter room ch rest
      let (x, c) ← ofArray room c
      return (x, ← c.closeArray)
    else c.wrongType expected

end MessageCatalog.Json.Cursor
