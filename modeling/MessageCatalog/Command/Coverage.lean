/-
The command `coverage`: how much of a file the files of other languages
have.

The file of a language has the name of that language and lies in one
directory with the others; a language without a file has no messages.
-/
import MessageCatalog.Command.Outcome
import MessageCatalog.Command.Path
import MessageCatalog.Command.Request
import MessageCatalog.Command.Table
import MessageCatalog.Coverage

namespace MessageCatalog.Command

/-- The coverage of one language. -/
structure LanguageReport where
  language : String
  coverage : Coverage
deriving DecidableEq, Repr

namespace LanguageReport

/-- A report as a document. -/
def toJson (r : LanguageReport) : Json :=
  .object [("language", .string r.language), ("translated", .ofNat r.coverage.covered),
    ("total", .ofNat r.coverage.total),
    ("missing", .array (r.coverage.missing.map .string)),
    ("extra", .array (r.coverage.extra.map .string))]

/-- The row of a language. -/
def row (r : LanguageReport) : List String :=
  [r.language, toString r.coverage.covered ++ "/" ++ toString r.coverage.total,
    toString r.coverage.missing.length, toString r.coverage.extra.length]

/-- The lines that name the missing messages; none if there are none. -/
def missingLines (r : LanguageReport) : List String :=
  if r.coverage.isComplete then []
  else ["", "Missing in " ++ r.language ++ ":"] ++ r.coverage.missing.map ("  - " ++ ·)

end LanguageReport

namespace CoverageRequest

/-- The path of the file of a language. -/
def fileOf (r : CoverageRequest) (language : String) : String :=
  Path.join (r.directory.getD ((Path.parent? r.source).getD ".")) (language ++ ".json")

/-- The reports on all languages. -/
def reports (r : CoverageRequest) (files : Files) : Except Diagnosis (List LanguageReport) := do
  let source ← files.resource r.source
  r.languages.mapM fun language => do
    let counterpart ← files.resource? (r.fileOf language)
    return ⟨language, .of source counterpart⟩

/-- The reports as they are printed. -/
def print (r : CoverageRequest) (reports : List LanguageReport) : String :=
  if r.json then unlines [(Json.array (reports.map LanguageReport.toJson)).indented]
  else
    let table : Table :=
      ⟨["Language", "Coverage", "Missing", "Extra"], reports.map LanguageReport.row⟩
    unlines (table.lines ++ reports.flatMap LanguageReport.missingLines)

/-- Compares the source with all languages. -/
def run (r : CoverageRequest) (files : Files) : Outcome :=
  .ofExcept do
    let reports ← r.reports files
    return .judged (r.print reports)
      (r.strict && reports.any fun report => !report.coverage.isComplete)

end CoverageRequest

end MessageCatalog.Command
