/-
The command `format`: one message of a catalog of files.
-/
import MessageCatalog.Command.Outcome
import MessageCatalog.Command.Request
import MessageCatalog.Wire.Part

namespace MessageCatalog.Command

/-- The value of a variable from its text: the value that the text is as
JSON, or else the text itself. -/
def valueOfText (text : String) : Value :=
  match Value.ofText text with
  | .ok v => v
  | .error _ => .string text

namespace FormatRequest

/-- The catalog of the files, and the id of the first resource. -/
def catalog (r : FormatRequest) (files : Files) : Except Diagnosis (String × Catalog) := do
  let first ← files.resource r.file
  let more ← r.moreFiles.mapM files.resource
  let empty := { Catalog.empty with locales := r.locales }
  return (first.id, (first :: more).foldl (fun c resource => (c.add resource).2) empty)

/-- The variables with their values; of several values of one variable the
last counts. -/
def bindings (r : FormatRequest) : Dictionary Value :=
  Dictionary.ofList (r.assignments.map fun (name, text) => (name, valueOfText text))

/-- The formatted message in its layout. -/
def result (r : FormatRequest) (c : Catalog) (id : String) : Except FormatError String :=
  match r.layout with
  | .text => c.format id r.path r.bindings
  | .parts => do
    let parts ← c.formatToParts id r.path r.bindings
    return (Json.array (Part.toItems parts)).indented
  | .record => do
    let text ← c.format id r.path r.bindings
    return (Json.object [("result", .string text)]).indented

/-- How an error is printed. -/
def complaint (r : FormatRequest) (e : FormatError) : String :=
  if r.json then (Json.object [("error", .string e.message)]).indented
  else "Format error: " ++ e.message

/-- Formats the message. -/
def run (r : FormatRequest) (files : Files) : Outcome :=
  .ofExcept do
    let (first, c) ← r.catalog files
    match r.result c (r.id.getD first) with
    | .ok text => return .success (unlines [text])
    | .error e => return .failure "" (unlines [r.complaint e])

end FormatRequest

end MessageCatalog.Command
