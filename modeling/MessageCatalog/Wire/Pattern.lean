/-
Elements and messages on the wire.

Elements are told apart by their shape alone: a scalar is a literal, and
any other document is the first of a variable, a call and a reference
whose record it is. Records may be written as objects or as arrays of
their fields. A document that stands for no element can still be an
override, as a plain value.

An element is no deeper than its document, so reading recurses on the
levels of the document.
-/
import MessageCatalog.Message
import MessageCatalog.Wire.Value

namespace MessageCatalog

-- ============================================================= reading

namespace Element

/-- The elements of an array, if every item stands for one. -/
def list? (element : Json → Option Element) : Json → Option (List Element)
  | .array items => items.mapM element
  | _ => none

/-- The override that a document stands for. -/
def override (element : Json → Option Element) (j : Json) : Override :=
  match element j with
  | some e => .element e
  | none => .value (.ofJson j)

/-- A variable: the record of `var_path`. -/
def asVariable? (element : Json → Option Element) (j : Json) : Option Element := do
  match ← j.fields? ["var_path"] with
  | [some path] => return .variable (← list? element path)
  | _ => none

/-- The arguments of a call; none are the same as an empty array. -/
def args? (element : Json → Option Element) : Option Json → Option (List Element)
  | none => some []
  | some j => list? element j

/-- The options of a call; none are the same as an empty object. -/
def options? : Option Json → Option Options
  | none => some []
  | some (.object members) => Json.dictionary? Literal.ofJson? members
  | some _ => none

/-- A call: the record of `func`, `args` and `options`. -/
def asCall? (element : Json → Option Element) (j : Json) : Option Element := do
  match ← j.fields? ["func", "args", "options"] with
  | [some (.string name), args, options] =>
    return .call name (← args? element args) (← options? options)
  | _ => none

/-- The resource of a reference; null is the same as none. -/
def resource? : Option Json → Option (Option String)
  | none => some none
  | some .null => some none
  | some (.string id) => some (some id)
  | some _ => none

/-- The overrides of a reference; null is the same as none. -/
def overrides? (element : Json → Option Element) :
    Option Json → Option (Option (List (String × Override)))
  | none => some none
  | some .null => some none
  | some (.object members) =>
    (Json.dictionary? (fun j => some (override element j)) members).map some
  | some _ => none

/-- A reference: the record of `res_id`, `msg_path` and `scope`. -/
def asReference? (element : Json → Option Element) (j : Json) : Option Element := do
  match ← j.fields? ["res_id", "msg_path", "scope"] with
  | [resource, some path, overrides] =>
    return .message (← resource? resource) (← list? element path)
      (← overrides? element overrides)
  | _ => none

/-- The element that a document of at most so many levels stands for. -/
def atLevels? : (levels : Nat) → Json → Option Element
  | 0, _ => none
  | levels + 1, j =>
    ((Literal.ofJson? j).map .literal)
      <|> asVariable? (atLevels? levels) j
      <|> asCall? (atLevels? levels) j
      <|> asReference? (atLevels? levels) j

/-- The element that a document stands for. -/
def ofJson? (j : Json) : Option Element := atLevels? j.levels j

end Element

/-- The override that a document stands for. -/
def Override.ofJson (j : Json) : Override := Element.override Element.ofJson? j

/-- The pattern that a document stands for. -/
def Pattern.ofJson? : Json → Option Pattern := Element.list? Element.ofJson?

/-- The default key of a selector; null is the same as none. -/
def Selector.default? : Option Json → Option (Option Literal)
  | none => some none
  | some .null => some none
  | some j => (Literal.ofJson? j).map some

/-- A selector: the record of `value` and `default`. -/
def Selector.ofJson? (j : Json) : Option Selector := do
  match ← j.fields? ["value", "default"] with
  | [some value, default] => return ⟨← Element.ofJson? value, ← Selector.default? default⟩
  | _ => none

/-- A case: the record of `key` and `value`. -/
def Case.ofJson? (j : Json) : Option Case := do
  match ← j.fields? ["key", "value"] with
  | [some (.array keys), some pattern] =>
    return ⟨← keys.mapM Literal.ofJson?, ← Pattern.ofJson? pattern⟩
  | _ => none

/-- A selection: the record of `select` and `cases`. -/
def Selection.ofJson? (j : Json) : Option Selection := do
  match ← j.fields? ["select", "cases"] with
  | [some (.array selectors), some (.array cases)] =>
    return ⟨← selectors.mapM Selector.ofJson?, ← cases.mapM Case.ofJson?⟩
  | _ => none

/-- The body of a message: a pattern, or else a selection. -/
def Message.ofBody? (j : Json) : Option Message :=
  ((Pattern.ofJson? j).map .pattern) <|> ((Selection.ofJson? j).map .select)

/-- A message: the record of `value`. -/
def Message.ofJson? (j : Json) : Option Message := do
  match ← j.fields? ["value"] with
  | [some body] => Message.ofBody? body
  | _ => none

-- ============================================================= writing

/-- A field that is left out if there is nothing to write. -/
def Json.optional (name : String) : Option Json → List (String × Json)
  | some j => [(name, j)]
  | none => []

/-- Options as an object. -/
def optionsToJson (options : Options) : Json :=
  .object (options.map fun (name, l) => (name, l.toJson))

namespace Element

mutual

/-- An element as a document. -/
def toJson : Element → Json
  | .literal l => l.toJson
  | .variable path => .object [("var_path", .array (toItems path))]
  | .call name args options =>
    .object (("func", .string name)
      :: ((if args.isEmpty then [] else [("args", .array (toItems args))])
        ++ (if options.isEmpty then [] else [("options", optionsToJson options)])))
  | .message resource path none =>
    .object (Json.optional "res_id" (resource.map .string)
      ++ [("msg_path", .array (toItems path))])
  | .message resource path (some overrides) =>
    .object (Json.optional "res_id" (resource.map .string)
      ++ [("msg_path", .array (toItems path)), ("scope", .object (toMembers overrides))])

/-- Elements as documents. -/
def toItems : List Element → List Json
  | [] => []
  | e :: rest => toJson e :: toItems rest

/-- Overrides as members. -/
def toMembers : List (String × Override) → List (String × Json)
  | [] => []
  | (name, .element e) :: rest => (name, toJson e) :: toMembers rest
  | (name, .value v) :: rest => (name, v.toJson) :: toMembers rest

end

end Element

/-- An override as a document. -/
def Override.toJson : Override → Json
  | .element e => e.toJson
  | .value v => v.toJson

/-- A pattern as a document. -/
def Pattern.toJson (p : Pattern) : Json := .array (Element.toItems p)

/-- A selector as a document. -/
def Selector.toJson (s : Selector) : Json :=
  .object (("value", s.value.toJson) :: Json.optional "default" (s.default.map Literal.toJson))

/-- A case as a document. -/
def Case.toJson (c : Case) : Json :=
  .object [("key", .array (c.keys.map Literal.toJson)), ("value", Pattern.toJson c.pattern)]

/-- A selection as a document. -/
def Selection.toJson (s : Selection) : Json :=
  .object [("select", .array (s.selectors.map Selector.toJson)),
    ("cases", .array (s.cases.map Case.toJson))]

/-- The body of a message as a document. -/
def Message.body : Message → Json
  | .pattern p => Pattern.toJson p
  | .select s => s.toJson

/-- A message as a document. -/
def Message.toJson (m : Message) : Json := .object [("value", m.body)]

-- =============================================================== texts

/-- Reads an element. -/
def Element.ofText : String → Except Json.Fault Element :=
  Json.ofText? "PatternElement" Element.ofJson?

/-- Reads an override. -/
def Override.ofText : String → Except Json.Fault Override :=
  Json.ofText? "ScopeOverride" fun j => some (.ofJson j)

end MessageCatalog
