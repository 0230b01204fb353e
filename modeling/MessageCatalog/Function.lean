/-
Functions that messages can call.

Functions live in two tables: those for formatting give values to show,
those for selecting give values to match keys against. A function sees
the locales of the context, the options of the call and its arguments;
why it fails never reaches a formatted message.
-/
import MessageCatalog.Pattern

namespace MessageCatalog

/-- Why a function gives no value. -/
inductive FunctionError where
  | unsupportedArgument (reason : String)
  | missingArgument (index : Nat)
  | invalidOption (name reason : String)
  | unsupportedLocale (locale : String)
deriving DecidableEq, Repr

/-- The wording of a function error. -/
def FunctionError.message : FunctionError → String
  | .unsupportedArgument reason => "unsupported argument: " ++ reason
  | .missingArgument index => "missing argument " ++ toString index
  | .invalidOption name reason => "invalid option '" ++ name ++ "': " ++ reason
  | .unsupportedLocale locale => "unsupported locale: " ++ locale

/-- A function of locales, options and arguments. -/
abbrev Function := List String → Options → List Value → Except FunctionError Value

/-- The two tables. -/
inductive FunctionKind where
  | format
  | select
deriving DecidableEq, Repr

/-- The functions that a context knows by name. -/
structure Functions where
  format : Dictionary Function
  select : Dictionary Function

namespace Functions

/-- No functions. -/
def empty : Functions := ⟨[], []⟩

/-- The table of a kind. -/
def table (f : Functions) : FunctionKind → Dictionary Function
  | .format => f.format
  | .select => f.select

/-- The function of a kind and name. -/
def get? (f : Functions) (kind : FunctionKind) (name : String) : Option Function :=
  Dictionary.get? name (f.table kind)

/-- Adds a function, in place of the one already there. -/
def register (f : Functions) (kind : FunctionKind) (name : String) (g : Function) : Functions :=
  match kind with
  | .format => { f with format := Dictionary.insert name g f.format }
  | .select => { f with select := Dictionary.insert name g f.select }

/-- The names of a kind, sorted. -/
def names (f : Functions) (kind : FunctionKind) : List String := Dictionary.names (f.table kind)

/-- The value that a function gives, if there is such a function and it
does not fail. -/
def result? (f : Functions) (locales : List String) (kind : FunctionKind) (name : String)
    (options : Options) (args : List Value) : Option Value :=
  match f.get? kind name with
  | some g => (g locales options args).toOption
  | none => none

end Functions

end MessageCatalog
