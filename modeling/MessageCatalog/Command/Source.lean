/-
Resources in files, and what is said about files that hold none.

A fault in a text is reported by the line and the column of a byte of
that text. The byte is found from the place of the fault line by line,
each line counted with one byte for its end, and never lies behind the
end of the text.
-/
import MessageCatalog.Catalog
import MessageCatalog.Text.Measure

namespace MessageCatalog.Command

/-- What reading the file at a path gives. -/
abbrev Files := String → Except FileProblem String

/-- A byte of a file by its line and its column, both counted from one. -/
structure Location where
  path : String
  line : Nat
  column : Nat
deriving DecidableEq, Repr

/-- A location as text. -/
def Location.text (l : Location) : String :=
  l.path ++ ":" ++ toString l.line ++ ":" ++ toString l.column

-- ============================================================== places

/-- The lines of a text without their ends. A line ends at a line feed, and
a carriage return right before it belongs to the end. -/
def lines : List Char → List (List Char)
  | [] => []
  | c :: rest =>
    if c = '\n' then [] :: lines rest
    else if c = '\r' ∧ rest.head? = some '\n' then lines rest
    else
      match lines rest with
      | [] => [[c]]
      | l :: more => (c :: l) :: more

/-- The byte of a text that a line and a column mean. -/
def byteOffset (text : List Char) (line column : Nat) : Nat :=
  let before := Text.total (fun l => Text.byteLength l + 1) ((lines text).take (line - 1))
  min (before + (column - 1)) (Text.byteLength text)

/-- The line and the column of a byte, when the text starts at the given
line and column. -/
def lineAndColumn (line column : Nat) : (offset : Nat) → List Char → Nat × Nat
  | 0, _ => (line, column)
  | offset, [] => (line, column + offset)
  | offset, c :: rest =>
    if offset < c.utf8Size then (line, column + offset)
    else if c = '\n' then lineAndColumn (line + 1) 1 (offset - c.utf8Size) rest
    else lineAndColumn line (column + c.utf8Size) (offset - c.utf8Size) rest

/-- Where the fault of a text that was read from a path lies. -/
def Location.ofFault (path text : String) (fault : Json.Fault) : Location :=
  let offset := byteOffset text.toList fault.line fault.column
  let (line, column) := lineAndColumn 1 1 offset text.toList
  ⟨path, line, column⟩

-- =========================================================== diagnoses

/-- Why a file gives no resource. -/
inductive Diagnosis where
  | unreadable (path : String) (problem : FileProblem)
  | malformed (location : Location) (fault : Json.Fault)
deriving DecidableEq

namespace Diagnosis

/-- Where the file is at fault, if it could be read. -/
def location? : Diagnosis → Option Location
  | .unreadable _ _ => none
  | .malformed l _ => some l

/-- The wording of a diagnosis. -/
def message : Diagnosis → String
  | .unreadable path _ => "cannot read resource file " ++ path
  | .malformed l fault => l.text ++ ": invalid resource: " ++ fault.message

end Diagnosis

/-- The resource in a file. -/
def Files.resource (files : Files) (path : String) : Except Diagnosis Resource :=
  match files path with
  | .error problem => .error (.unreadable path problem)
  | .ok text =>
    match Resource.ofText text with
    | .ok r => .ok r
    | .error fault => .error (.malformed (.ofFault path text fault) fault)

/-- The resource in a file, or nothing if there is no file. -/
def Files.resource? (files : Files) (path : String) : Except Diagnosis (Option Resource) :=
  match files path with
  | .error .notFound => .ok none
  | _ => (files.resource path).map some

end MessageCatalog.Command
