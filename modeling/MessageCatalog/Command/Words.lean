/-
The words of a command line.

A word is an option or an operand. An option is written with its long
name behind two hyphens or with its letter behind one, where several
letters may share a hyphen. An option that takes a value has it in the
same word, behind an equals sign or right behind the letter, or else as
the next word, which may not look like an option. Behind a word of two
hyphens all words are operands.

The words are read one by one, and reading stops at the first word that
is wrong or asks for help.
-/
namespace MessageCatalog.Command

/-- A text that is printed instead of running a command. -/
inductive Notice where
  | help
  | version
deriving DecidableEq, Repr

/-- What an option takes. -/
inductive Takes where
  /-- Nothing; given once at most. -/
  | nothing
  /-- A value, of those that are accepted. -/
  | value (repeatable : Bool) (accepts : String → Bool)
  /-- Nothing; reading stops and the notice is printed. -/
  | notice (n : Notice)

/-- What an option looks like and what it takes. -/
structure Form where
  name : String
  letter : Option Char
  takes : Takes

/-- An option as it was given; the value of a flag is empty. -/
structure Setting where
  name : String
  value : String
deriving DecidableEq, Repr

/-- What is wrong with a command line. -/
inductive Misuse where
  | unknownOption (option : String)
  | unexpectedValue (option value : String)
  | missingValue (option : String)
  | repeatedOption (option : String)
  | invalidValue (option value : String)
  | unexpectedOperand (word : String)
  | missingOption (option : String)
  | missingOperand (name : String)
  | unknownCommand (word : String)
  | missingCommand
deriving DecidableEq, Repr

/-- The wording of a misuse. -/
def Misuse.message : Misuse → String
  | .unknownOption option => "unknown option '" ++ option ++ "'"
  | .unexpectedValue option value =>
    "unexpected value '" ++ value ++ "' for option '--" ++ option ++ "'"
  | .missingValue option => "option '--" ++ option ++ "' needs a value"
  | .repeatedOption option => "option '--" ++ option ++ "' cannot be given more than once"
  | .invalidValue option value => "invalid value '" ++ value ++ "' for '" ++ option ++ "'"
  | .unexpectedOperand word => "unexpected argument '" ++ word ++ "'"
  | .missingOption option => "option '--" ++ option ++ "' is required"
  | .missingOperand name => "missing argument " ++ name
  | .unknownCommand word => "unknown command '" ++ word ++ "'"
  | .missingCommand => "missing command"

/-- Why reading the words stops early. -/
inductive Stop where
  | notice (n : Notice)
  | misuse (m : Misuse)
deriving DecidableEq, Repr

/-- What the words behind a command may be. -/
structure Grammar where
  forms : List Form
  /-- What an operand is called. -/
  operand : String
  /-- How many operands there may be; any number if none is given. -/
  maxOperands : Option Nat
  accepts : String → Bool

/-- The words read so far. -/
structure Words where
  settings : List Setting
  operands : List String
  /-- The option whose value has to come next. -/
  awaiting : Option Form
  /-- Whether all further words are operands. -/
  plain : Bool

/-- What a word looks like on its own. -/
inductive Look where
  | operand
  | divider
  | long (name : String) (value : Option String)
  | letters (cs : List Char)
deriving DecidableEq, Repr

/-- The text before the first equals sign, and the text behind it if there
is one. -/
def splitEquals : List Char → List Char × Option (List Char)
  | [] => ([], none)
  | c :: rest =>
    if c = '=' then ([], some rest)
    else
      let (before, behind) := splitEquals rest
      (c :: before, behind)

/-- The look of a word. A single hyphen is an operand. -/
def Look.of (word : String) : Look :=
  match word.toList with
  | ['-', '-'] => .divider
  | '-' :: '-' :: rest =>
    let (name, value) := splitEquals rest
    .long (String.ofList name) (value.map String.ofList)
  | '-' :: c :: rest => .letters (c :: rest)
  | _ => .operand

namespace Words

/-- Before the first word. -/
def start : Words := ⟨[], [], none, false⟩

/-- Adds a setting; the flag says whether the option may be repeated. -/
def set (w : Words) (repeatable : Bool) (name value : String) : Except Stop Words :=
  if !repeatable && w.settings.any (·.name == name) then
    .error (.misuse (.repeatedOption name))
  else .ok { w with settings := w.settings ++ [⟨name, value⟩], awaiting := none }

/-- Adds an option without a value in its word. -/
def bare (w : Words) (f : Form) : Except Stop Words :=
  match f.takes with
  | .nothing => w.set false f.name ""
  | .value _ _ => .ok { w with awaiting := some f }
  | .notice n => .error (.notice n)

/-- Adds an option with a value. -/
def withValue (w : Words) (f : Form) (value : String) : Except Stop Words :=
  match f.takes with
  | .value repeatable accepts =>
    if accepts value then w.set repeatable f.name value
    else .error (.misuse (.invalidValue f.name value))
  | _ => .error (.misuse (.unexpectedValue f.name value))

/-- Adds an option by its long name. -/
def long (g : Grammar) (w : Words) (name : String) (value : Option String) :
    Except Stop Words :=
  match g.forms.find? (·.name == name), value with
  | none, _ => .error (.misuse (.unknownOption ("--" ++ name)))
  | some f, none => w.bare f
  | some f, some value => w.withValue f value

/-- The value right behind the letter of an option. -/
def valueBehind : List Char → String
  | '=' :: rest => String.ofList rest
  | rest => String.ofList rest

/-- Adds options by their letters. -/
def letters (g : Grammar) (w : Words) : List Char → Except Stop Words
  | [] => .ok w
  | c :: rest =>
    match g.forms.find? (·.letter == some c) with
    | none => .error (.misuse (.unknownOption (String.ofList ['-', c])))
    | some f =>
      match f.takes, rest with
      | .value _ _, _ :: _ => w.withValue f (valueBehind rest)
      | _, _ => do
        let w ← w.bare f
        letters g w rest

/-- Adds an operand. -/
def operand (g : Grammar) (w : Words) (word : String) : Except Stop Words :=
  if g.maxOperands.any (· ≤ w.operands.length) then
    .error (.misuse (.unexpectedOperand word))
  else if !g.accepts word then .error (.misuse (.invalidValue g.operand word))
  else .ok { w with operands := w.operands ++ [word] }

/-- Adds the next word. -/
def next (g : Grammar) (w : Words) (word : String) : Except Stop Words :=
  if w.plain then w.operand g word
  else
    match w.awaiting, Look.of word with
    | some f, .operand => w.withValue f word
    | some f, _ => .error (.misuse (.missingValue f.name))
    | none, .operand => w.operand g word
    | none, .divider => .ok { w with plain := true }
    | none, .long name value => w.long g name value
    | none, .letters cs => w.letters g cs

/-- Makes sure that no option still awaits its value. -/
def finish (w : Words) : Except Stop Words :=
  match w.awaiting with
  | some f => .error (.misuse (.missingValue f.name))
  | none => .ok w

/-- Reads words by a grammar. -/
def read (g : Grammar) (words : List String) : Except Stop Words := do
  let w ← words.foldlM (next g) start
  w.finish

/-- Reads options up to the first operand, and gives it with the words
behind it. -/
def readHead (g : Grammar) (w : Words) : List String → Except Stop (Words × String × List String)
  | [] => do
    let _ ← w.finish
    .error (.misuse .missingCommand)
  | word :: rest =>
    if w.awaiting.isNone && !w.plain && Look.of word == .operand then .ok (w, word, rest)
    else do
      let w ← w.next g word
      readHead g w rest

/-- Whether an option was given. -/
def has (w : Words) (f : Form) : Bool := w.settings.any (·.name == f.name)

/-- The values of an option, in order. -/
def values (w : Words) (f : Form) : List String :=
  (w.settings.filter (·.name == f.name)).map (·.value)

/-- The value of an option that is given once at most. -/
def value? (w : Words) (f : Form) : Option String := (w.values f).head?

end Words

end MessageCatalog.Command
