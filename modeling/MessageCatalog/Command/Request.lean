/-
Requests: what a command line asks for.

There are three commands with options of their own, and two options that
stand before or behind the name of the command; behind it they count
more.
-/
import MessageCatalog.Command.Words
import MessageCatalog.Text.Split

namespace MessageCatalog.Command

/-- When to use colors. -/
inductive Color where
  | auto
  | always
  | never
deriving DecidableEq, Repr

/-- The color setting with a name. -/
def Color.ofName? (name : String) : Option Color :=
  if name == "auto" then some .auto
  else if name == "always" then some .always
  else if name == "never" then some .never
  else none

/-- How a formatted message is printed. -/
inductive Layout where
  | text
  | parts
  | record
deriving DecidableEq, Repr

/-- Asks for a formatted message. -/
structure FormatRequest where
  /-- The file whose resource is meant if no id is given. -/
  file : String
  moreFiles : List String
  id : Option String
  locales : List String
  /-- The variables, each with the text of its value. -/
  assignments : List (String × String)
  layout : Layout
  /-- Whether an error is printed as a JSON document. -/
  json : Bool
  path : List String
deriving DecidableEq, Repr

/-- Asks for the warnings on files. -/
structure CheckRequest where
  files : List String
  json : Bool
  /-- Whether warnings count as failure. -/
  strict : Bool
deriving DecidableEq, Repr

/-- Asks for the coverage of a file by the files of other languages. -/
structure CoverageRequest where
  source : String
  languages : List String
  /-- The directory of the languages' files; that of the source if none is
  given. -/
  directory : Option String
  json : Bool
  /-- Whether missing messages count as failure. -/
  strict : Bool
deriving DecidableEq, Repr

/-- What a command line asks for. -/
inductive Request where
  | format (r : FormatRequest)
  | check (r : CheckRequest)
  | coverage (r : CoverageRequest)
deriving DecidableEq, Repr

-- =========================================================== the options

namespace Form

/-- Any value is accepted. -/
def anyText : String → Bool := fun _ => true

/-- The empty text is no path. -/
def isPath (s : String) : Bool := s != ""

/-- Whether a text names a variable and gives it a value. -/
def isAssignment (s : String) : Bool := s.toList.contains '='

/-- Asks for help. -/
def help : Form := ⟨"help", some 'h', .notice .help⟩

/-- Asks for the version. -/
def version : Form := ⟨"version", some 'V', .notice .version⟩

/-- Asks for more to be said along the way. -/
def verbose : Form := ⟨"verbose", some 'v', .nothing⟩

/-- Says when to use colors. -/
def color : Form := ⟨"color", none, .value false fun s => (Color.ofName? s).isSome⟩

/-- Names a file to load. -/
def resource : Form := ⟨"resource", some 'r', .value true isPath⟩

/-- Names the resource of the message. -/
def id : Form := ⟨"id", none, .value false anyText⟩

/-- Adds a locale. -/
def locale : Form := ⟨"locale", some 'l', .value true anyText⟩

/-- Gives a variable its value. -/
def param : Form := ⟨"param", some 'p', .value true isAssignment⟩

/-- Asks for the parts of the message. -/
def parts : Form := ⟨"parts", none, .nothing⟩

/-- Asks for JSON. -/
def json : Form := ⟨"json", none, .nothing⟩

/-- Makes warnings or missing messages a failure. -/
def strict : Form := ⟨"strict", none, .nothing⟩

/-- Names the file to be covered. -/
def source : Form := ⟨"source", none, .value false isPath⟩

/-- Adds languages. -/
def lang : Form := ⟨"lang", none, .value true anyText⟩

/-- Names the directory of the languages' files. -/
def directory : Form := ⟨"translations", none, .value false isPath⟩

/-- The options that stand before or behind the name of the command. -/
def shared : List Form := [color, verbose, help]

end Form

namespace Grammar

/-- Before the name of the command. -/
def head : Grammar := ⟨Form.version :: Form.shared, "COMMAND", some 0, Form.anyText⟩

/-- Behind `format`. -/
def format : Grammar where
  forms := [Form.resource, Form.id, Form.locale, Form.param, Form.parts, Form.json] ++ Form.shared
  operand := "PATH"
  maxOperands := some 1
  accepts := Form.anyText

/-- Behind `check`. -/
def check : Grammar where
  forms := [Form.json, Form.strict] ++ Form.shared
  operand := "FILES"
  maxOperands := none
  accepts := Form.isPath

/-- Behind `coverage`. -/
def coverage : Grammar where
  forms := [Form.source, Form.lang, Form.directory, Form.strict, Form.json] ++ Form.shared
  operand := "OPERAND"
  maxOperands := some 0
  accepts := Form.anyText

end Grammar

-- ========================================================== the commands

/-- The locale of messages if none is given. -/
def defaultLocale : String := "en"

/-- A name and a value on the two sides of the first equals sign. -/
def assignment (s : String) : String × String :=
  let (name, value) := splitEquals s.toList
  (String.ofList name, (value.map String.ofList).getD "")

/-- The request of the words behind `format`. -/
def FormatRequest.ofWords (w : Words) : Except Stop FormatRequest :=
  match w.values .resource, w.operands with
  | [], _ => .error (.misuse (.missingOption Form.resource.name))
  | _, [] => .error (.misuse (.missingOperand Grammar.format.operand))
  | file :: moreFiles, path :: _ =>
    let locales := w.values .locale
    .ok {
      file, moreFiles
      id := w.value? .id
      locales := if locales.isEmpty then [defaultLocale] else locales
      assignments := (w.values .param).map assignment
      layout := if w.has .parts then .parts else if w.has .json then .record else .text
      json := w.has .json
      path := Text.split '.' path }

/-- The request of the words behind `check`. -/
def CheckRequest.ofWords (w : Words) : Except Stop CheckRequest :=
  if w.operands.isEmpty then .error (.misuse (.missingOperand Grammar.check.operand))
  else .ok ⟨w.operands, w.has .json, w.has .strict⟩

/-- The request of the words behind `coverage`. Each language option holds
languages between commas. -/
def CoverageRequest.ofWords (w : Words) : Except Stop CoverageRequest :=
  match w.value? .source with
  | none => .error (.misuse (.missingOption Form.source.name))
  | some source =>
    .ok {
      source
      languages := (w.values .lang).flatMap (Text.split ',')
      directory := w.value? .directory
      json := w.has .json
      strict := w.has .strict }

/-- The names of the commands. -/
def commandNames : List String := ["format", "check", "coverage", "help"]

/-- The request of a command and the words behind its name, with the words
as they were read. -/
def Request.ofCommand (name : String) (rest : List String) : Except Stop (Words × Request) :=
  match name with
  | "format" => do
    let w ← Words.read .format rest
    return (w, .format (← FormatRequest.ofWords w))
  | "check" => do
    let w ← Words.read .check rest
    return (w, .check (← CheckRequest.ofWords w))
  | "coverage" => do
    let w ← Words.read .coverage rest
    return (w, .coverage (← CoverageRequest.ofWords w))
  | "help" =>
    match rest.find? fun word => !commandNames.contains word with
    | some word => .error (.misuse (.unknownCommand word))
    | none => .error (.notice .help)
  | name => .error (.misuse (.unknownCommand name))

/-- The color setting of words, if they have one. -/
def Color.ofWords? (w : Words) : Option Color := (w.value? .color).bind Color.ofName?

/-- The request of a whole command line, and its color setting. -/
def Request.ofWords (words : List String) : Except Stop (Color × Request) := do
  let (head, name, rest) ← Words.readHead .head .start words
  let (w, request) ← Request.ofCommand name rest
  return (((Color.ofWords? w).or (Color.ofWords? head)).getD .auto, request)

end MessageCatalog.Command
