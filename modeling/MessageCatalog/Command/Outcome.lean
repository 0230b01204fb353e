/-
Outcomes of commands.

A command that ran to its end may still fail because of what the files
say; a command that could not read its files or its words prints no
result at all.
-/
import MessageCatalog.Command.Source
import MessageCatalog.Command.Words

namespace MessageCatalog.Command

/-- What a command line comes to. -/
inductive Outcome where
  | success (output : String)
  /-- The command ran, and found fault with the data. -/
  | failure (output complaint : String)
  /-- A file gave no resource. -/
  | broken (diagnosis : Diagnosis)
  /-- The words make no request. -/
  | misused (misuse : Misuse)
deriving DecidableEq

namespace Outcome

/-- The exit code. -/
def code : Outcome → Nat
  | .success _ => 0
  | .misused _ => 2
  | .failure _ _ => 65
  | .broken _ => 70

/-- The text for the standard output. -/
def output : Outcome → String
  | .success out => out
  | .failure out _ => out
  | _ => ""

/-- The text for the standard error. -/
def complaint : Outcome → String
  | .success _ => ""
  | .failure _ text => text
  | .broken d => d.message ++ "\n"
  | .misused m => "error: " ++ m.message ++ "\n"

/-- The location of a fault in a file. -/
def location? : Outcome → Option Location
  | .broken d => d.location?
  | _ => none

/-- The outcome of a command that may find its files broken. -/
def ofExcept : Except Diagnosis Outcome → Outcome
  | .ok o => o
  | .error d => .broken d

/-- The outcome of a command that prints and then finds fault or not. -/
def judged (output : String) (faulty : Bool) : Outcome :=
  if faulty then .failure output "" else .success output

end Outcome

/-- Lines as a text, each with its end. -/
def unlines (lines : List String) : String := String.join (lines.map (· ++ "\n"))

end MessageCatalog.Command
