/-
Resources on the wire.

An entry is a message if it is the record of one, and a group if it is
the record of that; a resource is the record of `id`, `locale` and
`entries`. Entries are told apart as whole documents, but the records
around them are read member by member.
-/
import MessageCatalog.Json.Record
import MessageCatalog.Resource
import MessageCatalog.Wire.Pattern

namespace MessageCatalog

-- =========================================================== documents

namespace Entry

/-- The entry that a document of at most so many levels stands for. -/
def atLevels? : (levels : Nat) → Json → Option Entry
  | 0, _ => none
  | levels + 1, j =>
    ((Message.ofJson? j).map .message) <|> do
      match ← j.fields? ["entries"] with
      | [some (.object members)] =>
        return .group (← Json.dictionary? (atLevels? levels) members)
      | _ => none

/-- The entry that a document stands for. -/
def ofJson? (j : Json) : Option Entry := atLevels? j.levels j

mutual

/-- An entry as a document. -/
def toJson : Entry → Json
  | .message m => m.toJson
  | .group entries => .object [("entries", .object (toMembers entries))]

/-- Entries as members. -/
def toMembers : List (String × Entry) → List (String × Json)
  | [] => []
  | (name, e) :: rest => (name, toJson e) :: toMembers rest

end

end Entry

namespace Resource

/-- The resource that a document stands for. -/
def ofJson? (j : Json) : Option Resource := do
  match ← j.fields? ["id", "locale", "entries"] with
  | [some (.string id), some (.string locale), none] => return ⟨id, locale, []⟩
  | [some (.string id), some (.string locale), some (.object members)] =>
    return ⟨id, locale, ← Json.dictionary? Entry.ofJson? members⟩
  | _ => none

/-- A resource as a document. -/
def toJson (r : Resource) : Json :=
  .object [("id", .string r.id), ("locale", .string r.locale),
    ("entries", .object (Entry.toMembers r.entries))]

end Resource

-- =============================================================== texts

open Json (Cursor Fault)

/-- Reads an entry. -/
def Entry.ofText : String → Except Fault Entry := Json.ofText? "Entry" Entry.ofJson?

namespace Message

/-- What a message is called where another document is found. -/
def wanted : String := "struct Message"

/-- Takes the body of a message. The third argument places a fault of its
shape. -/
def readBody (room : Nat) (c : Cursor)
    (fault : Cursor → Json.Problem → Except Fault (Message × Cursor)) :
    Except Fault (Message × Cursor) := do
  let (j, c) ← c.document room
  match ofBody? j with
  | some m => return (m, c)
  | none => fault c (.noAlternative "MessageValue")

/-- Takes the members of a message. -/
def readMembers (room : Nat) (c : Cursor) : Except Fault (Message × Cursor) := do
  let step (m? : Option Message) (name : String) (c : Cursor) :
      Except Fault (Option Message × Cursor) :=
    if name = "value" then
      if m?.isSome then c.faultInObject (.duplicateField name)
      else do
        let c ← c.colon
        let (m, c) ← readBody room c Cursor.faultInObject
        return (some m, c)
    else c.skipMember m?
  let (m?, c) ← Cursor.eachMember step c.fuel true none c
  match m? with
  | some m => return (m, c)
  | none => c.faultInObject (.missingField "value")

/-- Takes the items of a message written as an array. -/
def readItems (room : Nat) (c : Cursor) : Except Fault (Message × Cursor) := do
  let (more, c) ← c.nextItem true
  if more then readBody room c Cursor.faultInArray
  else c.faultInArray (.wrongLength 0 (wanted ++ " with 1 element"))

/-- Reads a message. -/
def ofText (text : String) : Except Fault Message := do
  let (m, c) ← (Cursor.start text.toList).record Json.maxNesting wanted readMembers readItems
  c.finish m

end Message

namespace Resource

/-- What a resource is called where another document is found. -/
def wanted : String := "struct Resource"

/-- Takes the entries of a resource. -/
def readEntries (room : Nat) (c : Cursor) : Except Fault (Dictionary Entry × Cursor) :=
  let c := c.skipBlanks
  match c.rest with
  | ch :: rest =>
    if ch = '\x7b' then do
      let (room, c) ← c.enter room ch rest
      let step (entries : Dictionary Entry) (name : String) (c : Cursor) :
          Except Fault (Dictionary Entry × Cursor) := do
        let c ← c.colon
        let (j, c) ← c.document room
        match Entry.ofJson? j with
        | some e => return (Dictionary.insert name e entries, c)
        | none => c.faultInObject (.noAlternative "Entry")
      let (entries, c) ← Cursor.eachMember step c.fuel true [] c
      return (entries, ← c.closeObject)
    else c.wrongType "a map"
  | [] => c.wrongType "a map"

/-- The fields of a resource as far as they have been read. -/
structure Draft where
  id : Option String
  locale : Option String
  entries : Option (Dictionary Entry)

/-- Takes the member behind a name. -/
def readMember (room : Nat) (d : Draft) (name : String) (c : Cursor) :
    Except Fault (Draft × Cursor) :=
  if name = "id" then
    if d.id.isSome then c.faultInObject (.duplicateField name)
    else do
      let c ← c.colon
      let (id, c) ← c.stringValue "a string"
      return ({ d with id := some id }, c)
  else if name = "locale" then
    if d.locale.isSome then c.faultInObject (.duplicateField name)
    else do
      let c ← c.colon
      let (locale, c) ← c.stringValue "a string"
      return ({ d with locale := some locale }, c)
  else if name = "entries" then
    if d.entries.isSome then c.faultInObject (.duplicateField name)
    else do
      let c ← c.colon
      let (entries, c) ← readEntries room c
      return ({ d with entries := some entries }, c)
  else c.skipMember d

/-- Takes the members of a resource. -/
def readMembers (room : Nat) (c : Cursor) : Except Fault (Resource × Cursor) := do
  let (d, c) ← Cursor.eachMember (readMember room) c.fuel true ⟨none, none, none⟩ c
  match d.id with
  | none => c.faultInObject (.missingField "id")
  | some id =>
    match d.locale with
    | none => c.faultInObject (.missingField "locale")
    | some locale => return (⟨id, locale, d.entries.getD []⟩, c)

/-- A fault for an array that ends before all fields are there. -/
def tooShort (length : Nat) (c : Cursor) : Except Fault (Resource × Cursor) :=
  c.faultInArray (.wrongLength length (wanted ++ " with 3 elements"))

/-- Takes the items of a resource written as an array. -/
def readItems (room : Nat) (c : Cursor) : Except Fault (Resource × Cursor) := do
  let (more, c) ← c.nextItem true
  if !more then tooShort 0 c
  else
    let (id, c) ← c.stringValue "a string"
    let (more, c) ← c.nextItem false
    if !more then tooShort 1 c
    else
      let (locale, c) ← c.stringValue "a string"
      let (more, c) ← c.nextItem false
      if !more then return (⟨id, locale, []⟩, c)
      else
        let (entries, c) ← readEntries room c
        return (⟨id, locale, entries⟩, c)

/-- Reads a resource. -/
def ofText (text : String) : Except Fault Resource := do
  let (r, c) ← (Cursor.start text.toList).record Json.maxNesting wanted readMembers readItems
  c.finish r

end Resource

end MessageCatalog
