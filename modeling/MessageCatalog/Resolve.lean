/-
Resolving messages.

# Two results

A message is resolved to text or to parts. Both walk the same tree; they
differ in what a reference in the pattern leaves behind. Everything that
is needed along the way (segments of paths, arguments, overrides,
selectors) is resolved to values, in which a reference is the text of
its message.

# Why it ends

References lead to messages that are no part of the tree, so the walk
through one message and the step into the next are kept apart. Within a
message the functions below recurse on its elements and leave what a
reference stands for to a parameter; `textOf` and `partsOf` supply it by
recursion on the number of steps that are still allowed.

# Cycles

The messages on the way from the outermost one form a chain of frames.
A message may not be entered if its frame repeats one in the chain; this
test is a parameter too, so that resolution with and without it can be
compared. Frames are values handed down, never taken back: what happens
in one reference cannot be seen from the next.

# One walk, several readings

The walk does not say in which kind of computation it takes place, only
that it can stop with an error and that every reference met on the way
is noted. Formatting is the computation that forgets the notes.
-/
import MessageCatalog.Context
import MessageCatalog.Part
import MessageCatalog.Resource

namespace MessageCatalog

/-- Why a message cannot be formatted. -/
inductive FormatError where
  | cyclicReference (chain : List String)
  | maxDepthExceeded (maxDepth : Nat)
  | messageNotFound (resource path : String)
deriving DecidableEq, Repr

/-- The wording of a format error. -/
def FormatError.message : FormatError → String
  | .cyclicReference chain =>
    "cyclic message reference detected: " ++ " -> ".intercalate chain
  | .maxDepthExceeded maxDepth =>
    "maximum message reference depth of " ++ toString maxDepth ++ " exceeded"
  | .messageNotFound resource path =>
    "message not found: '" ++ path ++ "' in resource '" ++ resource ++ "'"

namespace Resolve

-- ============================================================== chains

/-- What a reference leads to: a path, the message found there, and the
context to resolve it in. -/
structure Target where
  path : List String
  message : Option Message
  context : Context

namespace Target

/-- The resource and the path as text. -/
def key (t : Target) : String := t.context.resourceId.getD "" ++ ":" ++ dotted t.path

/-- The variables that the message sees. -/
def visible (t : Target) : Dictionary Value := t.context.scope.flatten

end Target

/-- A message being resolved, with what tells it from others: its
resource and path as text, and the variables that it sees. -/
structure Frame where
  target : Target
  key : String
  visible : Dictionary Value
  key_eq : key = target.key
  visible_eq : visible = target.visible

/-- The frame of a message about to be entered. -/
def Target.frame (t : Target) : Frame := ⟨t, t.key, t.visible, rfl, rfl⟩

/-- Whether two frames have the same key and equal variables. -/
def Frame.same (a b : Frame) : Bool :=
  a.key == b.key && Value.samePairs a.visible b.visible

/-- The messages being resolved, the outermost first. -/
abbrev Chain := List Frame

/-- Whether a message with this frame may not be entered. -/
abbrev Guard := Chain → Frame → Bool

/-- A frame may not repeat one in the chain. -/
def noRepeat : Guard := fun chain frame => chain.any fun f => f.same frame

/-- Every frame may be entered. -/
def unguarded : Guard := fun _ _ => false

-- ======================================================== computations

/-- What becomes of a reference. -/
inductive Outcome where
  | missing
  | cyclic
  | tooDeep
  | entered
deriving DecidableEq, Repr

/-- A reference that was met: the messages being resolved at that moment,
what it leads to, and what became of it. -/
structure Visit where
  chain : Chain
  target : Target
  outcome : Outcome

/-- A computation that resolves: it may stop with an error, and it may
keep the visits that it is told of. -/
class Resolving (μ : Type → Type) extends Monad μ where
  stop : {α : Type} → FormatError → μ α
  note : Visit → μ Unit

/-- Formatting forgets its visits. -/
instance : Resolving (Except FormatError) where
  stop := .error
  note _ := .ok ()

-- ===================================================== within a message

section Message

variable {μ : Type → Type} [Monad μ]

/-- The target of a reference whose segments and overrides are resolved. -/
def target (ctx : Context) (resource : Option String) (segments : List Value)
    (overrides : Option (Dictionary Value)) : Target :=
  let path := segments.map Value.text
  ⟨path, ctx.message? resource path, ctx.extend resource overrides⟩

mutual

/-- The value of an element, where `refer` gives the text of references. -/
def value (refer : Target → μ String) (ctx : Context) : Element → μ Value
  | .literal l => return .ofLiteral l
  | .variable path => do
    let keys ← values refer ctx path
    return ctx.scope.walk keys
  | .call name args options => do
    let args ← values refer ctx args
    return ctx.callFormat name options args
  | .message resource path none => do
    let segments ← values refer ctx path
    let text ← refer (target ctx resource segments none)
    return .string text
  | .message resource path (some overrides) => do
    let segments ← values refer ctx path
    let overrides ← bindings refer ctx overrides
    let text ← refer (target ctx resource segments (some overrides))
    return .string text

/-- The values of elements, in order. -/
def values (refer : Target → μ String) (ctx : Context) : List Element → μ (List Value)
  | [] => return []
  | e :: rest => do
    let v ← value refer ctx e
    let vs ← values refer ctx rest
    return v :: vs

/-- The bindings of overrides, in order, each resolved in the context of
the reference. -/
def bindings (refer : Target → μ String) (ctx : Context) :
    List (String × Override) → μ (Dictionary Value)
  | [] => return []
  | (name, .value v) :: rest => do
    let bs ← bindings refer ctx rest
    return (name, v) :: bs
  | (name, .element e) :: rest => do
    let v ← value refer ctx e
    let bs ← bindings refer ctx rest
    return (name, v) :: bs

end

/-- The part that an element leaves behind, where `referParts` gives the
parts of references. -/
def part (refer : Target → μ String) (referParts : Target → μ (List Part)) (ctx : Context) :
    Element → μ Part
  | .literal l => return .literal l
  | .message resource path none => do
    let segments ← values refer ctx path
    let parts ← referParts (target ctx resource segments none)
    return .message parts
  | .message resource path (some overrides) => do
    let segments ← values refer ctx path
    let overrides ← bindings refer ctx overrides
    let parts ← referParts (target ctx resource segments (some overrides))
    return .message parts
  | e => do
    let v ← value refer ctx e
    return .dynamic v

-- ============================================================ selection

/-- Whether a selector with a default and a value accepts a key. -/
def accepts (default : Literal) (v : Value) (key : Literal) : Bool :=
  key.agrees default || v.equalsLiteral key || v.containsLiteral key

/-- Whether a case has one key for each selector, each accepted. -/
def Case.fits (resolved : List (Literal × Value)) (c : Case) : Bool :=
  c.keys.length == resolved.length &&
    (resolved.zip c.keys).all fun ((default, v), key) => accepts default v key

/-- The pattern of the first case that fits, or the empty pattern. -/
def choose (cases : List Case) (resolved : List (Literal × Value)) : Pattern :=
  match cases.find? (Case.fits resolved) with
  | some c => c.pattern
  | none => []

/-- The value of a selector: its calls go to the selecting functions. -/
def selectorValue (refer : Target → μ String) (ctx : Context) (s : Selector) : μ Value :=
  match s.value with
  | .call name args options => do
    let args ← values refer ctx args
    return ctx.matchValue (ctx.callSelect name options args)
  | e => do
    let v ← value refer ctx e
    return ctx.matchValue v

/-- The selectors with their defaults and values, in order. -/
def selectorValues (refer : Target → μ String) (ctx : Context) :
    List Selector → μ (List (Literal × Value))
  | [] => return []
  | s :: rest => do
    let v ← selectorValue refer ctx s
    let vs ← selectorValues refer ctx rest
    return (s.defaultKey, v) :: vs

/-- The pattern of a message: its own, or that of the chosen case. -/
def pattern (refer : Target → μ String) (ctx : Context) : Message → μ Pattern
  | .pattern p => return p
  | .select s => do
    let resolved ← selectorValues refer ctx s.selectors
    return choose s.cases resolved

-- ======================================================= whole messages

/-- The text of a pattern. -/
def patternText (refer : Target → μ String) (ctx : Context) : Pattern → μ String
  | [] => return ""
  | e :: rest => do
    let v ← value refer ctx e
    let text ← patternText refer ctx rest
    return v.textOrEmpty ++ text

/-- The parts of a pattern. -/
def patternParts (refer : Target → μ String) (referParts : Target → μ (List Part))
    (ctx : Context) : Pattern → μ (List Part)
  | [] => return []
  | e :: rest => do
    let p ← part refer referParts ctx e
    let ps ← patternParts refer referParts ctx rest
    return p :: ps

/-- The text of a message. -/
def messageText (refer : Target → μ String) (ctx : Context) (m : Message) : μ String := do
  let p ← pattern refer ctx m
  patternText refer ctx p

/-- The parts of a message. -/
def messageParts (refer : Target → μ String) (referParts : Target → μ (List Part))
    (ctx : Context) (m : Message) : μ (List Part) := do
  let p ← pattern refer ctx m
  patternParts refer referParts ctx p

variable {refer : Target → μ String} {ctx : Context} {m m' : Message}

/-- The pattern of a selection is the one that is chosen for the values of
its selectors. -/
theorem pattern_select (s : Selection) :
    pattern refer ctx (.select s) = (do
      let resolved ← selectorValues refer ctx s.selectors
      return choose s.cases resolved) := rfl

/-- The text of a message depends on its pattern alone. -/
theorem messageText_congr (h : pattern refer ctx m = pattern refer ctx m') :
    messageText refer ctx m = messageText refer ctx m' := by
  unfold messageText
  rw [h]

/-- The parts of a message depend on its pattern alone. -/
theorem messageParts_congr (h : pattern refer ctx m = pattern refer ctx m')
    (referParts : Target → μ (List Part)) :
    messageParts refer referParts ctx m = messageParts refer referParts ctx m' := by
  unfold messageParts
  rw [h]

end Message

-- ========================================================== references

section References

variable {μ : Type → Type} [Resolving μ] {α : Type}

/-- What a reference met behind a chain stands for: what its message gives
behind the longer chain, or what is shown for a missing one. The step into
the message is refused if its frame is guarded against, or if there is no
`inner` because no further step is allowed. -/
def referring (missing : List String → α) (guarded : Guard) (chain : Chain)
    (inner : Option (Chain → Context → Message → μ α)) (t : Target) : μ α :=
  match t.message with
  | none => do
    Resolving.note ⟨chain, t, .missing⟩
    return missing t.path
  | some m =>
    let frame := t.frame
    if guarded chain frame then do
      Resolving.note ⟨chain, t, .cyclic⟩
      Resolving.stop (.cyclicReference ((chain ++ [frame]).map Frame.key))
    else
      match inner with
      | none => do
        Resolving.note ⟨chain, t, .tooDeep⟩
        Resolving.stop (.maxDepthExceeded t.context.maxDepth)
      | some inner => do
        Resolving.note ⟨chain, t, .entered⟩
        inner (chain ++ [frame]) t.context m

/-- What the text shows for a message that is missing. -/
def placeholder (path : List String) : String := "\x7b" ++ dotted path ++ "\x7d"

/-- What the parts hold for a message that is missing. -/
def noParts (_ : List String) : List Part := []

/-- The text of a reference met behind a chain, with at most `room`
further references inside each other. -/
def textOf (guarded : Guard) : (room : Nat) → Chain → Target → μ String
  | 0, chain => referring placeholder guarded chain none
  | room + 1, chain =>
    referring placeholder guarded chain (some fun longer =>
      messageText (textOf guarded room longer))

/-- The parts of a reference met behind a chain, with at most `room`
further references inside each other. -/
def partsOf (guarded : Guard) : (room : Nat) → Chain → Target → μ (List Part)
  | 0, chain => referring noParts guarded chain none
  | room + 1, chain =>
    referring noParts guarded chain (some fun longer =>
      messageParts (textOf guarded room longer) (partsOf guarded room longer))

section Referring

variable {missing : List String → α} {guarded : Guard} {chain : Chain} {t : Target}
variable {inner : Option (Chain → Context → Message → μ α)} {m : Message}

theorem referring_missing (h : t.message = none) :
    referring missing guarded chain inner t = (do
      Resolving.note ⟨chain, t, .missing⟩
      return missing t.path) := by
  unfold referring
  rw [h]

theorem referring_cyclic (h : t.message = some m) (hg : guarded chain t.frame = true) :
    referring missing guarded chain inner t = (do
      Resolving.note ⟨chain, t, .cyclic⟩
      Resolving.stop (.cyclicReference ((chain ++ [t.frame]).map Frame.key))) := by
  unfold referring
  rw [h]
  exact if_pos hg

theorem referring_tooDeep (h : t.message = some m) (hg : guarded chain t.frame = false) :
    referring missing guarded chain (none : Option (Chain → Context → Message → μ α)) t = (do
      Resolving.note ⟨chain, t, .tooDeep⟩
      Resolving.stop (.maxDepthExceeded t.context.maxDepth)) := by
  unfold referring
  rw [h]
  exact if_neg (by simp [hg])

theorem referring_entered (h : t.message = some m) (hg : guarded chain t.frame = false)
    (body : Chain → Context → Message → μ α) :
    referring missing guarded chain (some body) t = (do
      Resolving.note ⟨chain, t, .entered⟩
      body (chain ++ [t.frame]) t.context m) := by
  unfold referring
  rw [h]
  exact if_neg (by simp [hg])

theorem textOf_missing (h : t.message = none) (room : Nat) :
    (textOf guarded room chain t : μ String) = (do
      Resolving.note ⟨chain, t, .missing⟩
      return placeholder t.path) := by
  cases room <;> exact referring_missing h

theorem textOf_cyclic (h : t.message = some m) (hg : guarded chain t.frame = true)
    (room : Nat) :
    (textOf guarded room chain t : μ String) = (do
      Resolving.note ⟨chain, t, .cyclic⟩
      Resolving.stop (.cyclicReference ((chain ++ [t.frame]).map Frame.key))) := by
  cases room <;> exact referring_cyclic h hg

theorem textOf_tooDeep (h : t.message = some m) (hg : guarded chain t.frame = false) :
    (textOf guarded 0 chain t : μ String) = (do
      Resolving.note ⟨chain, t, .tooDeep⟩
      Resolving.stop (.maxDepthExceeded t.context.maxDepth)) :=
  referring_tooDeep h hg

theorem textOf_entered (h : t.message = some m) (hg : guarded chain t.frame = false)
    (room : Nat) :
    (textOf guarded (room + 1) chain t : μ String) = (do
      Resolving.note ⟨chain, t, .entered⟩
      messageText (textOf guarded room (chain ++ [t.frame])) t.context m) :=
  referring_entered h hg _

end Referring

/-- The text of a message behind the empty chain. -/
def textFrom (guarded : Guard) (ctx : Context) (m : Message) : μ String :=
  messageText (textOf guarded ctx.maxDepth []) ctx m

/-- The parts of a message behind the empty chain. -/
def partsFrom (guarded : Guard) (ctx : Context) (m : Message) : μ (List Part) :=
  messageParts (textOf guarded ctx.maxDepth []) (partsOf guarded ctx.maxDepth []) ctx m

end References

end Resolve

/-- The text of a message in a context. -/
def formatText (ctx : Context) (m : Message) : Except FormatError String :=
  Resolve.textFrom Resolve.noRepeat ctx m

/-- The parts of a message in a context. -/
def formatParts (ctx : Context) (m : Message) : Except FormatError (List Part) :=
  Resolve.partsFrom Resolve.noRepeat ctx m

end MessageCatalog
