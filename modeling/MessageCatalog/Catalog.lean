/-
Catalogs: resources by id, with the settings that formatting needs.

Adding a resource replaces the one with the same id. There is no
fallback between resources: every lookup names its resource, and
references within a resource mean that resource unless they say
otherwise.
-/
import MessageCatalog.Function.Builtin
import MessageCatalog.Resolve
import MessageCatalog.Wire.Resource

namespace MessageCatalog

/-- A resource answers lookups for its own id and lookups without one. -/
def Resource.lookup (r : Resource) : Lookup := fun id path =>
  match id with
  | some id => if id = r.id then r.message? path else none
  | none => r.message? path

/-- Resources by id, with the settings that formatting needs. -/
structure Catalog where
  locales : List String
  functions : Functions
  maxDepth : Nat
  resources : Dictionary Resource

/-- Why a resource cannot be read from a file. -/
inductive FileProblem where
  | notFound
  | isDirectory
  | unreadable
deriving DecidableEq, Repr

/-- Why a resource is not loaded. -/
inductive LoadError where
  | file (path : String) (problem : FileProblem)
  | text (path : String) (fault : Json.Fault)
deriving DecidableEq

namespace Json.Fault

/-- The line of a fault; a fault without a place is in line zero. -/
def line (f : Fault) : Nat := (f.place.map Place.line).getD 0

/-- The column of a fault. -/
def column (f : Fault) : Nat := (f.place.map Place.column).getD 0

/-- A fault with the path of its text in front. -/
def located (f : Fault) (path : String) : String :=
  path ++ ":" ++ toString f.line ++ ":" ++ toString f.column ++ ": " ++ f.message

end Json.Fault

namespace Catalog

/-- The catalog without resources: English, with the built-in functions. -/
def empty : Catalog := ⟨["en"], .builtin, defaultMaxDepth, []⟩

/-- The resource with an id. -/
def resource? (c : Catalog) (id : String) : Option Resource := Dictionary.get? id c.resources

/-- The ids of all resources, sorted. -/
def ids (c : Catalog) : List String := Dictionary.names c.resources

/-- Adds a resource. The first result is the resource that it replaces. -/
def add (c : Catalog) (r : Resource) : Option Resource × Catalog :=
  (c.resource? r.id, { c with resources := Dictionary.insert r.id r c.resources })

/-- Loads a resource from a text that was found at a path, and gives its
id. -/
def load (c : Catalog) (path text : String) : Except LoadError (String × Catalog) :=
  match Resource.ofText text with
  | .ok r => .ok (r.id, (c.add r).2)
  | .error f => .error (.text path f)

/-- The path that stands for a text without a file. -/
def textPath : String := "<string>"

/-- Loads a resource from the outcome of reading a file. -/
def loadFile (c : Catalog) (path : String) (content : Except FileProblem String) :
    Except LoadError (String × Catalog) :=
  match content with
  | .ok text => c.load path text
  | .error p => .error (.file path p)

/-- Replaces the list of locales. -/
def setLocales (c : Catalog) (locales : List String) : Catalog := { c with locales }

/-- Registers a function, in place of the one with the same kind and name. -/
def register (c : Catalog) (kind : FunctionKind) (name : String) (f : Function) : Catalog :=
  { c with functions := c.functions.register kind name f }

/-- The entry at a path of a resource. -/
def entryAt? (c : Catalog) (id : String) (path : List String) : Option Entry :=
  (c.resource? id).bind (·.entryAt? path)

/-- A catalog answers lookups that name a resource. -/
def lookup (c : Catalog) : Lookup := fun id path =>
  id.bind fun id => (c.resource? id).bind (·.message? path)

/-- The context of the messages of a resource. -/
def context (c : Catalog) (id : String) (scope : Scope) : Context :=
  ⟨c.locales, c.functions, c.lookup, some id, scope, c.maxDepth⟩

/-- The message to format, which has to exist. -/
def requireMessage (c : Catalog) (id : String) (path : List String) :
    Except FormatError Message :=
  match (c.entryAt? id path).bind Entry.message? with
  | some m => .ok m
  | none => .error (.messageNotFound id (dotted path))

/-- The text of a message. -/
def format (c : Catalog) (id : String) (path : List String) (bindings : Dictionary Value) :
    Except FormatError String := do
  let m ← c.requireMessage id path
  formatText (c.context id (.ofDictionary bindings)) m

/-- The parts of a message. -/
def formatToParts (c : Catalog) (id : String) (path : List String)
    (bindings : Dictionary Value) : Except FormatError (List Part) := do
  let m ← c.requireMessage id path
  formatParts (c.context id (.ofDictionary bindings)) m

end Catalog

end MessageCatalog
