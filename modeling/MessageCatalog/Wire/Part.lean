/-
Parts on the wire.

A part is the record of `kind` and `value`; the kind says what the value
stands for. If the kind comes first the value is read accordingly while
the text is read; if the value comes first it is kept as a document
until the kind is known.
-/
import MessageCatalog.Json.Record
import MessageCatalog.Part
import MessageCatalog.Wire.Value

namespace MessageCatalog.Part

open Json (Cursor Fault Problem)

/-- The three kinds of parts. -/
inductive Kind where
  | literal
  | dynamic
  | message
deriving DecidableEq, Repr

/-- What a part is called where another document is found. -/
def wanted : String := "adjacently tagged enum FormattedPart"

/-- The kind with a name. -/
def Kind.ofName (name : String) : Except Problem Kind :=
  if name = "literal" then .ok .literal
  else if name = "dynamic" then .ok .dynamic
  else if name = "message" then .ok .message
  else .error (.unknownVariant name ["literal", "dynamic", "message"])

-- ============================================================= writing

mutual

/-- A part as a document. -/
def toJson : Part → Json
  | .literal l => .object [("kind", .string "literal"), ("value", l.toJson)]
  | .dynamic v => .object [("kind", .string "dynamic"), ("value", v.toJson)]
  | .message parts => .object [("kind", .string "message"), ("value", .array (toItems parts))]

/-- Parts as documents. -/
def toItems : List Part → List Json
  | [] => []
  | p :: rest => toJson p :: toItems rest

end

-- =========================================================== documents

/-- The kind at a place in the list of kinds. -/
def Kind.ofPlace (place : Int) : Except Problem Kind :=
  if place = 0 then .ok .literal
  else if place = 1 then .ok .dynamic
  else if place = 2 then .ok .message
  else .error (.wrongValue (.integer place) "variant index 0 <= i < 3")

/-- The kind at the front of an array: its name, or its place in the list
of kinds. -/
def Kind.ofItem : Json → Except Problem Kind
  | .string name => Kind.ofName name
  | .integer place =>
    if 0 ≤ place then Kind.ofPlace place
    else .error (.wrongType (.integer place) "variant identifier")
  | j => .error (.wrongType (Json.found j) "variant identifier")

/-- The kind that a document names: its string, or an object whose only
member has that name and holds nothing. -/
def Kind.ofJson : Json → Except Problem Kind
  | .string name => Kind.ofName name
  | .object [(name, j)] => do
    let k ← Kind.ofName name
    match j with
    | .null => return k
    | .object [] => return k
    | j => .error (.wrongType (Json.found j) "unit")
  | .object _ => .error (.wrongValue .map "map with a single key")
  | j => .error (.wrongType (Json.found j) "string or map")

/-- The part of a kind with a value. -/
def ofValue (part : Json → Except Problem Part) (k : Kind) (j : Json) : Except Problem Part :=
  match k with
  | .literal =>
    match Literal.ofJson? j with
    | some l => .ok (.literal l)
    | none => .error (.noAlternative "Literal")
  | .dynamic => .ok (.dynamic (.ofJson j))
  | .message =>
    match j with
    | .array items => (items.mapM part).map .message
    | j => .error (.wrongType (Json.found j) "a sequence")

/-- The part that a document of at most so many levels stands for, or the
first thing wrong with its shape. -/
def atLevels : (levels : Nat) → Json → Except Problem Part
  | 0, j => .error (.wrongType (Json.found j) wanted)
  | levels + 1, j =>
    match j with
    | .array [] => .error (.wrongLength 0 wanted)
    | .array [k] => do
      let _ ← Kind.ofItem k
      .error (.wrongLength 1 wanted)
    | .array (k :: v :: more) => do
      let k ← Kind.ofItem k
      let p ← ofValue (atLevels levels) k v
      if more.isEmpty then return p
      else .error (.wrongLength (more.length + 2) "2 elements in sequence")
    | .object members =>
      match members.filter fun m => m.1 == "kind" || m.1 == "value" with
      | [] => .error (.missingField "kind")
      | (name, j) :: rest =>
        if name = "kind" then do
          let k ← Kind.ofJson j
          match rest with
          | [] => .error (.missingField "value")
          | (name, j) :: rest =>
            if name = "kind" then .error (.duplicateField name)
            else do
              let p ← ofValue (atLevels levels) k j
              match rest with
              | [] => return p
              | (name, _) :: _ => .error (.duplicateField name)
        else
          match rest with
          | [] => .error (.missingField "kind")
          | (name, k) :: rest =>
            if name = "value" then .error (.duplicateField name)
            else do
              let k ← Kind.ofJson k
              let p ← ofValue (atLevels levels) k j
              match rest with
              | [] => return p
              | (name, _) :: _ => .error (.duplicateField name)
    | j => .error (.wrongType (Json.found j) wanted)

/-- The part that a document stands for. -/
def ofJson (j : Json) : Except Problem Part := atLevels j.levels j

-- =============================================================== texts

/-- Takes the string that names a kind. -/
def readKindName (c : Cursor) : Except Fault (Kind × Cursor) := do
  let (name, c) ← c.stringValue "variant identifier"
  match Kind.ofName name with
  | .ok k => return (k, c)
  | .error p => c.fault p

/-- Takes the kind that an opened object names. -/
def readOnlyName (c : Cursor) : Except Fault (Kind × Cursor) :=
  let c := c.skipBlanks
  match c.rest with
  | [] => c.fault .endOfObject
  | ch :: _ =>
    if ch = '\x22' then readKindName c
    else if ch = '\x7d' then c.faultAhead .expectedValue
    else c.faultAhead .keyNotString

/-- Takes the kind of a part: its name, or an object whose only member has
that name and holds nothing. -/
def readKind (room : Nat) (c : Cursor) : Except Fault (Kind × Cursor) :=
  let c := c.skipBlanks
  match c.rest with
  | [] => c.fault .endOfValue
  | ch :: rest =>
    if ch = '\x22' then readKindName c
    else if ch = '\x7b' then do
      let (_, c) ← c.enter room ch rest
      let (k, c) ← readOnlyName c
      let c ← c.colon
      let c := c.skipBlanks
      let c ←
        match c.rest with
        | 'n' :: _ => c.word ['n', 'u', 'l', 'l']
        | _ => c.wrongType "unit"
      let c := c.skipBlanks
      match c.rest with
      | [] => c.fault .endOfObject
      | ch :: rest => if ch = '\x7d' then .ok (k, c.past ch rest) else c.fault .expectedValue
    else c.faultAhead .expectedValue

/-- Takes members up to the next that is named `kind` or `value`, and that
name; without one the cursor stands at the closing brace. -/
def nextRelevant : (fuel : Nat) → (first : Bool) → Cursor →
    Except Fault (Option String × Cursor)
  | 0, _, c => c.fault .tooDeep
  | fuel + 1, first, c => do
    let (name?, c) ← c.nextName first
    match name? with
    | none => return (none, c)
    | some name =>
      if name = "kind" ∨ name = "value" then return (some name, c)
      else
        let c ← c.colon
        let c ← c.skip
        nextRelevant fuel false c

/-- Makes sure that neither `kind` nor `value` comes again. -/
def lastMembers (p : Part) (c : Cursor) : Except Fault (Part × Cursor) := do
  let (again?, c) ← nextRelevant c.fuel false c
  match again? with
  | none => return (p, c)
  | some name => c.faultInObject (.duplicateField name)

/-- Places a fault of the shape of what has been read. -/
def placed (fault : Cursor → Problem → Except Fault (Part × Cursor)) (c : Cursor) :
    Except Problem Part → Except Fault (Part × Cursor)
  | .ok p => .ok (p, c)
  | .error p => fault c p

mutual

/-- Takes the value of a part of a known kind. -/
def readValue : (fuel : Nat) → (room : Nat) → Kind →
    (Cursor → Problem → Except Fault (Part × Cursor)) → Cursor → Except Fault (Part × Cursor)
  | 0, _, _, _, c => c.fault .tooDeep
  | fuel + 1, room, k, fault, c =>
    match k with
    | .message =>
      let c := c.skipBlanks
      match c.rest with
      | ch :: rest =>
        if ch = '[' then do
          let (room, c) ← c.enter room ch rest
          let (parts, c) ← readParts fuel room true c
          return (.message parts, ← c.closeArray)
        else c.wrongType "a sequence"
      | [] => c.wrongType "a sequence"
    | k => do
      let (j, c) ← c.document room
      placed fault c (ofValue ofJson k j)

/-- Takes parts up to the closing bracket. -/
def readParts : (fuel : Nat) → (room : Nat) → (first : Bool) → Cursor →
    Except Fault (List Part × Cursor)
  | 0, _, _, c => c.fault .tooDeep
  | fuel + 1, room, first, c => do
    let (more, c) ← c.nextItem first
    if more then
      let (p, c) ← readPart fuel room c
      let (ps, c) ← readParts fuel room false c
      return (p :: ps, c)
    else return ([], c)

/-- Takes a part. -/
def readPart : (fuel : Nat) → (room : Nat) → Cursor → Except Fault (Part × Cursor)
  | 0, _, c => c.fault .tooDeep
  | fuel + 1, room, c =>
    c.record room wanted
      (fun room c => do
        let (name?, c) ← nextRelevant c.fuel true c
        match name? with
        | none => c.faultInObject (.missingField "kind")
        | some name =>
          let c ← c.colon
          if name = "kind" then
            let (k, c) ← readKind room c
            let (name?, c) ← nextRelevant c.fuel false c
            match name? with
            | none => c.faultInObject (.missingField "value")
            | some name =>
              if name = "kind" then c.faultInObject (.duplicateField name)
              else
                let c ← c.colon
                let (p, c) ← readValue fuel room k Cursor.faultInObject c
                lastMembers p c
          else
            let (j, c) ← c.document room
            let (name?, c) ← nextRelevant c.fuel false c
            match name? with
            | none => c.faultInObject (.missingField "kind")
            | some name =>
              if name = "value" then c.faultInObject (.duplicateField name)
              else
                let c ← c.colon
                let (k, c) ← readKind room c
                let (p, c) ← placed Cursor.faultInObject c (ofValue ofJson k j)
                lastMembers p c)
      (fun room c => do
        let (more, c) ← c.nextItem true
        if !more then c.faultInArray (.wrongLength 0 wanted)
        else
          let (k, c) ← readKindName c
          let (more, c) ← c.nextItem false
          if !more then c.faultInArray (.wrongLength 1 wanted)
          else readValue fuel room k Cursor.faultInArray c)

end

/-- Reads a part. -/
def ofText (text : String) : Except Fault Part := do
  let c := Cursor.start text.toList
  let (p, c) ← readPart (3 * text.length + 3) Json.maxNesting c
  c.finish p

end MessageCatalog.Part
