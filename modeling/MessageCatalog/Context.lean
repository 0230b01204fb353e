/-
Contexts: all that the formatting of a message depends on.
-/
import MessageCatalog.Function
import MessageCatalog.Message
import MessageCatalog.Scope

namespace MessageCatalog

/-- Where references find their messages: the message at a path in the
resource with an id, if there is one. Without an id the lookup chooses
the resource itself, or finds nothing. -/
abbrev Lookup := Option String → List String → Option Message

/-- The depth of nested references allowed when none is given. -/
def defaultMaxDepth : Nat := 64

/-- All that the formatting of a message depends on. -/
structure Context where
  locales : List String
  functions : Functions
  messages : Lookup
  /-- The resource of references that name none. -/
  resourceId : Option String
  scope : Scope
  maxDepth : Nat

namespace Context

/-- The message at a path, in the given resource or the resource of the
context. -/
def message? (ctx : Context) (resource : Option String) (path : List String) :
    Option Message :=
  ctx.messages (resource.or ctx.resourceId) path

/-- The context of a referenced message: the resource changes if the
reference names one, the scope grows if it overrides variables. -/
def extend (ctx : Context) (resource : Option String)
    (overrides : Option (Dictionary Value)) : Context :=
  { ctx with
    resourceId := resource.or ctx.resourceId
    scope := overrides.elim ctx.scope ctx.scope.push }

/-- Whether a reference leaves its context as it is. -/
def reuses (resource : Option String) (overrides : Option (Dictionary Value)) : Bool :=
  resource.isNone && overrides.isNone

/-- The value of a call from a pattern: the result of the function, or
the call itself between braces. -/
def callFormat (ctx : Context) (name : String) (options : Options) (args : List Value) :
    Value :=
  (ctx.functions.result? ctx.locales .format name options args).getD
    (.string ("\x7b" ++ name ++ "(" ++ ",".intercalate (args.map Value.textOrEmpty) ++ ")\x7d"))

/-- What a selecting call stands for when its function gives no value: its
first argument, as text unless it is a scalar. -/
def firstArgument : List Value → Value
  | [] => .string ""
  | v :: _ => if v.isLiteral then v else .string v.text

/-- The value of a call from a selector. -/
def callSelect (ctx : Context) (name : String) (options : Options) (args : List Value) :
    Value :=
  (ctx.functions.result? ctx.locales .select name options args).getD (firstArgument args)

/-- The name of the function that sorts numbers into categories. -/
def pluralName : String := "plural"

/-- What keys are matched against: numbers with their categories where the
context can tell them, strings and lists as they are, all else as text. -/
def matchValue (ctx : Context) : Value → Value
  | .number x => (ctx.functions.result? ctx.locales .select pluralName [] [.number x]).getD
      (.number x)
  | .string s => .string s
  | .list items => .list items
  | v => .string v.text

end Context

end MessageCatalog
