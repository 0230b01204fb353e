/-
The command `check`: the warnings on files.
-/
import MessageCatalog.Command.Outcome
import MessageCatalog.Command.Request
import MessageCatalog.Command.Table
import MessageCatalog.Lint

namespace MessageCatalog.Command

/-- What is said about one file. -/
structure FileReport where
  file : String
  id : String
  messages : Nat
  warnings : List Lint.Warning
deriving DecidableEq, Repr

namespace FileReport

/-- The report on a resource that was found in a file. -/
def of (file : String) (r : Resource) : FileReport :=
  ⟨file, r.id, r.messagePaths.length, r.lint⟩

/-- A report as a document. -/
def toJson (r : FileReport) : Json :=
  .object [("file", .string r.file), ("id", .string r.id), ("messages", .ofNat r.messages),
    ("warnings", .array (r.warnings.map fun w =>
      .object [("message", .string w.message), ("warning", .string w.text)]))]

/-- The rows of the table of warnings. -/
def rows (r : FileReport) : List (List String) :=
  r.warnings.map fun w => [r.file, w.message, w.text]

end FileReport

/-- A text in green. -/
def green (colored : Bool) (s : String) : String :=
  if colored then "\x1b[32m" ++ s ++ "\x1b[39m" else s

/-- A text in yellow. -/
def yellow (colored : Bool) (s : String) : String :=
  if colored then "\x1b[33m" ++ s ++ "\x1b[39m" else s

/-- The line for a file that could be read. -/
def FileReport.line (colored : Bool) (r : FileReport) : String :=
  green colored "ok" ++ " " ++ r.file ++ " (" ++ r.id ++ ", " ++ toString r.messages
    ++ " messages)"

/-- The lines for warnings; none if there are none. -/
def warningLines (colored : Bool) (reports : List FileReport) : List String :=
  match reports.flatMap FileReport.rows with
  | [] => []
  | rows =>
    [""] ++ (Table.mk ["File", "Message", "Warning"] rows).lines
      ++ [yellow colored "warning:" ++ " " ++ toString rows.length ++ " warning(s)"]

namespace CheckRequest

/-- The reports on all files. -/
def reports (r : CheckRequest) (files : Files) : Except Diagnosis (List FileReport) :=
  r.files.mapM fun file => (files.resource file).map (.of file)

/-- The reports as they are printed. -/
def print (r : CheckRequest) (colored : Bool) (reports : List FileReport) : String :=
  if r.json then unlines [(Json.array (reports.map FileReport.toJson)).indented]
  else unlines (reports.map (·.line colored) ++ warningLines colored reports)

/-- Checks the files. -/
def run (r : CheckRequest) (colored : Bool) (files : Files) : Outcome :=
  .ofExcept do
    let reports ← r.reports files
    return .judged (r.print colored reports)
      (r.strict && reports.any fun report => !report.warnings.isEmpty)

end CheckRequest

end MessageCatalog.Command
