/-
Patterns: what messages are made of.

A pattern is a list of elements. An element is a literal, a path into
the variables, a call of a function, or a reference to another message;
paths, arguments and the variables that a reference overrides are made
of elements again.
-/
import MessageCatalog.Value

namespace MessageCatalog

/-- The options of a call. -/
abbrev Options := Dictionary Literal

mutual

/-- An element of a pattern. -/
inductive Element where
  | literal (value : Literal)
  | variable (path : List Element)
  | call (name : String) (args : List Element) (options : List (String × Literal))
  | message (resource : Option String) (path : List Element)
      (overrides : Option (List (String × Override)))

/-- What a reference binds a variable to: an element, resolved where the
reference stands, or a value as it is. -/
inductive Override where
  | element (e : Element)
  | value (v : Value)

end

instance : Inhabited Element := ⟨.literal (.string "")⟩

/-- The elements of a message body. -/
abbrev Pattern := List Element

namespace Element

mutual

/-- An element as diagnostics show it. -/
def text : Element → String
  | .literal l => l.text
  | .variable path => "$" ++ pathText true path
  | .call name args _ => name ++ "(" ++ argsText true args ++ ")"
  | .message resource path _ =>
    match resource with
    | some id => id ++ ":" ++ pathText true path
    | none => pathText true path

/-- Segments between points, those that are not literals in braces. -/
def pathText (first : Bool) : List Element → String
  | [] => ""
  | .literal l :: rest => (if first then "" else ".") ++ l.text ++ pathText false rest
  | e :: rest => (if first then "" else ".") ++ "\x7b" ++ text e ++ "\x7d" ++ pathText false rest

/-- Arguments between commas. -/
def argsText (first : Bool) : List Element → String
  | [] => ""
  | e :: rest => (if first then "" else ",") ++ text e ++ argsText false rest

end

/-- The names of the four kinds of elements. -/
def kind : Element → String
  | .literal _ => "literal"
  | .variable _ => "variable"
  | .call _ _ _ => "function"
  | .message _ _ _ => "message"

/-- A variable with a path of literals. -/
def ofVariable (path : List Literal) : Element := .variable (path.map .literal)

/-- A call without options. -/
def ofCall (name : String) (args : List Element) : Element := .call name args []

/-- A reference within the same resource. -/
def ofMessage (path : List Element) : Element := .message none path none

end Element

end MessageCatalog
