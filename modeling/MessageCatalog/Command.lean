/-
The command line.

A request says beforehand which files it can read, so a run is a
function of the words and of what the files hold.
-/
import MessageCatalog.Command.Check
import MessageCatalog.Command.Coverage
import MessageCatalog.Command.Format

namespace MessageCatalog.Command

/-- The files that a request may read. -/
def Request.files : Request → List String
  | .format r => r.file :: r.moreFiles
  | .check r => r.files
  | .coverage r => r.source :: r.languages.map r.fileOf

/-- Whether output is colored; the flag says what to do if the command line
leaves it open. -/
def Color.use (automatic : Bool) : Color → Bool
  | .auto => automatic
  | .always => true
  | .never => false

/-- Carries out a request. -/
def Request.run (colored : Bool) (files : Files) : Request → Outcome
  | .format r => r.run files
  | .check r => r.run colored files
  | .coverage r => r.run files

/-- The name and version of the program. -/
def versionText : String := "msgfmt 0.1.0\n"

/-- How the program is used. -/
def helpText : String := unlines [
  "Format and check compiled message resources",
  "",
  "Usage: msgfmt [OPTIONS] <COMMAND>",
  "",
  "Commands:",
  "  format    Format a message",
  "  check     Check resource files",
  "  coverage  Report coverage across languages",
  "  help      Print this message",
  "",
  "Options:",
  "      --color <WHEN>  Color output control: auto, always or never",
  "  -v, --verbose       Enable verbose output",
  "  -h, --help          Print help",
  "  -V, --version       Print version"]

/-- The text of a notice. -/
def Notice.text : Notice → String
  | .help => helpText
  | .version => versionText

/-- The outcome of words that make no request. -/
def Stop.outcome : Stop → Outcome
  | .notice n => .success n.text
  | .misuse m => .misused m

/-- Runs a command line. -/
def run (automatic : Bool) (files : Files) (words : List String) : Outcome :=
  match Request.ofWords words with
  | .ok (color, request) => request.run (color.use automatic) files
  | .error stop => stop.outcome

end MessageCatalog.Command
