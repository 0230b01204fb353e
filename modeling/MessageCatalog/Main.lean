/-
The program: reads the words and the files of a request, and prints the
outcome.
-/
import MessageCatalog.Command

open MessageCatalog MessageCatalog.Command

/-- The code of the system for a path that leads through a file. -/
def notDirectoryCode : UInt32 := 20

/-- Why a file cannot be read. -/
def fileProblem : IO.Error → FileProblem
  | .noFileOrDirectory _ _ _ => .notFound
  | .inappropriateType _ code _ => if code = notDirectoryCode then .notFound else .isDirectory
  | _ => .unreadable

/-- Reads a file. -/
def readFile (path : String) : IO (Except FileProblem String) := do
  try
    return .ok (← IO.FS.readFile path)
  catch e =>
    return .error (fileProblem e)

/-- The files that the words ask for. -/
def requestedFiles (words : List String) : List String :=
  match Request.ofWords words with
  | .ok (_, request) => request.files
  | .error _ => []

/-- Whether colors can be shown. -/
def showsColors : IO Bool := do
  let terminal ← (← IO.getStdout).isTty
  let refused ← IO.getEnv "NO_COLOR"
  return terminal && refused.isNone

/-- Runs the command line and gives its exit code. -/
def main (words : List String) : IO UInt32 := do
  let contents ← (requestedFiles words).mapM fun path => return (path, ← readFile path)
  let files : Files := fun path => (contents.lookup path).getD (.error .notFound)
  let outcome := Command.run (← showsColors) files words
  IO.print outcome.output
  IO.eprint outcome.complaint
  return outcome.code.toUInt32
