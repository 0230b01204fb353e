/-
Literals and values on the wire.

A literal is a JSON scalar. Every JSON document is a value; of several
members with one name the last counts. Numbers that are infinite or not
a number have no JSON form and are written as null.
-/
import MessageCatalog.Json.Reader
import MessageCatalog.Value

namespace MessageCatalog

/-- The literal that a document stands for. -/
def Literal.ofJson? : Json → Option Literal
  | .bool b => some (.boolean b)
  | .integer n => (Json.number? (.integer n)).map .number
  | .decimal x => some (.number x)
  | .string s => some (.string s)
  | _ => none

/-- A literal as a document. -/
def Literal.toJson : Literal → Json
  | .boolean b => .bool b
  | .number x => .decimal x
  | .string s => .string s

/-- The members of an object whose documents all stand for something. -/
def Json.dictionary? {α : Type} (read : Json → Option α) (members : List (String × Json)) :
    Option (Dictionary α) :=
  (members.mapM fun m => (read m.2).map fun x => (m.1, x)).map Dictionary.ofList

namespace Value

mutual

/-- The value that a document stands for. -/
def ofJson : Json → Value
  | .null => .null
  | .bool b => .boolean b
  | .integer n => .number (((Json.integer n).number?).getD 0)
  | .decimal x => .number x
  | .string s => .string s
  | .array items => .list (ofItems items)
  | .object members => .map (Dictionary.ofList (ofMembers members))

/-- The values that documents stand for. -/
def ofItems : List Json → List Value
  | [] => []
  | j :: rest => ofJson j :: ofItems rest

/-- The values that members stand for, in their written order. -/
def ofMembers : List (String × Json) → List (String × Value)
  | [] => []
  | (name, j) :: rest => (name, ofJson j) :: ofMembers rest

end

mutual

/-- A value as a document. -/
def toJson : Value → Json
  | .null => .null
  | .boolean b => .bool b
  | .number x => .decimal x
  | .string s => .string s
  | .list items => .array (toItems items)
  | .map pairs => .object (toMembers pairs)

/-- Values as documents. -/
def toItems : List Value → List Json
  | [] => []
  | v :: rest => toJson v :: toItems rest

/-- Pairs as members. -/
def toMembers : List (String × Value) → List (String × Json)
  | [] => []
  | (name, v) :: rest => (name, toJson v) :: toMembers rest

end

end Value

/-- Reads a text that stands for something as a whole. A text that is a
document of another shape has a fault without a place. -/
def Json.ofText? {α : Type} (type : String) (read : Json → Option α) (text : String) :
    Except Json.Fault α := do
  let (j, c) ← (Json.Cursor.start text.toList).document Json.maxNesting
  match read j with
  | some x => c.finish x
  | none => .error ⟨.noAlternative type, none⟩

/-- Reads a literal. -/
def Literal.ofText : String → Except Json.Fault Literal := Json.ofText? "Literal" Literal.ofJson?

/-- Reads a value. -/
def Value.ofText : String → Except Json.Fault Value :=
  Json.ofText? "Value" fun j => some (.ofJson j)

end MessageCatalog
