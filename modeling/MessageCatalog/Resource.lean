/-
Resources: trees of named messages for one locale.

An entry of the tree is a message or a group of entries; a message is
addressed by the names on the way to it. Groups keep their entries in
the order of their names, so a walk through the tree meets the messages
in the order of their paths.
-/
import MessageCatalog.Message

namespace MessageCatalog

/-- A node of a resource. The entries of a group are a dictionary. -/
inductive Entry where
  | message (m : Message)
  | group (entries : List (String × Entry))

instance : Inhabited Entry := ⟨.group []⟩

/-- A tree of messages with its id and locale. -/
structure Resource where
  id : String
  locale : String
  entries : Dictionary Entry

/-- The message that an entry is, if it is one. -/
def Entry.message? : Entry → Option Message
  | .message m => some m
  | .group _ => none

/-- The entry at a path from an entry: further names lead through groups. -/
def Entry.at? : Entry → List String → Option Entry
  | e, [] => some e
  | .group entries, name :: rest => (Dictionary.get? name entries).bind (·.at? rest)
  | .message _, _ :: _ => none

/-- A path as text, its names between points. -/
def dotted (path : List String) : String := ".".intercalate path

namespace Resource

/-- A resource without entries. -/
def empty (id locale : String) : Resource := ⟨id, locale, []⟩

/-- Puts an entry under a name, in place of the entry already there. -/
def withEntry (r : Resource) (name : String) (e : Entry) : Resource :=
  { r with entries := Dictionary.insert name e r.entries }

/-- The entry at a path. The empty path leads nowhere. -/
def entryAt? (r : Resource) : List String → Option Entry
  | [] => none
  | name :: rest => (Dictionary.get? name r.entries).bind (·.at? rest)

/-- The message at a path. -/
def message? (r : Resource) (path : List String) : Option Message :=
  (r.entryAt? path).bind Entry.message?

end Resource

mutual

/-- The messages of an entry that lies at a path, with their paths. -/
def Entry.messages (path : List String) : Entry → List (List String × Message)
  | .message m => [(path, m)]
  | .group entries => messagesOfEntries path entries

/-- The messages of the entries below a path, with their paths. -/
def messagesOfEntries (path : List String) :
    List (String × Entry) → List (List String × Message)
  | [] => []
  | (name, e) :: rest => e.messages (path ++ [name]) ++ messagesOfEntries path rest

end

mutual

/-- The dotted paths of the messages of an entry that lies at a path. -/
def Entry.dottedPaths (path : List String) : Entry → List String
  | .message _ => [dotted path]
  | .group entries => dottedPathsOfEntries path entries

/-- The dotted paths of the messages of the entries below a path. -/
def dottedPathsOfEntries (path : List String) : List (String × Entry) → List String
  | [] => []
  | (name, e) :: rest => e.dottedPaths (path ++ [name]) ++ dottedPathsOfEntries path rest

end

namespace Resource

/-- Every message with its path, in the order of the paths. -/
def messages (r : Resource) : List (List String × Message) := messagesOfEntries [] r.entries

/-- The dotted paths of all messages, sorted as texts. -/
def messagePaths (r : Resource) : List String :=
  (dottedPathsOfEntries [] r.entries).mergeSort fun a b => decide (a ≤ b)

end Resource

end MessageCatalog
