/-
What a reference means.

A reference is resolved in the midst of a run: its message stands behind
a frame, has less room, and gets a context that is made up on the way.
None of this is part of what the reference means. If it can be resolved
at all, it is its message, formatted by itself in a context of its own
(`Context.derived`): that of the reference, with another resource if the
reference names one, with the overridden variables, and with a limit that
is less by the one step taken.

# What is evaluated where

The segments of the path and the overrides are values in the context of
the reference, and each is what its element gives by itself
(`Evaluated`). No override sees another one.

# The frame in front

Behind its frame a message can only be refused more often, and the room
that it has left is all the room in its own context. So what it gives
there it gives by itself (`messageText_looser`). The converse does not
hold: by itself, a message may be entered once more.
-/
import MessageCatalog.Proofs.Resolve.Limit
import MessageCatalog.Proofs.Resolve.Siblings

namespace MessageCatalog

/-- The context that a reference puts its message in: the settings stay,
the resource is the one that the reference names, if it names one, and the
bindings of the overrides shadow the variables. -/
def Context.derived (ctx : Context) (limit : Nat) (resource : Option String)
    (overrides : Option (Dictionary Value)) : Context where
  locales := ctx.locales
  functions := ctx.functions
  messages := ctx.messages
  resourceId := resource.or ctx.resourceId
  scope :=
    match overrides with
    | none => ctx.scope
    | some frame => ctx.scope.push frame
  maxDepth := limit

/-- A variable has the value that it is overridden with, or else the one
in the context of the reference. -/
theorem Context.get?_derived (ctx : Context) (limit : Nat) (resource : Option String)
    (overrides : Option (Dictionary Value)) (name : String) :
    (ctx.derived limit resource overrides).scope.get? name
      = (overrides.bind fun frame => Dictionary.get? name (Dictionary.ofList frame)).or
          (ctx.scope.get? name) := by
  cases overrides with
  | none => rfl
  | some frame => exact Scope.get?_push ctx.scope frame name

theorem Context.derived_eq (ctx : Context) (limit : Nat) (resource : Option String)
    (overrides : Option (Dictionary Value)) :
    ctx.derived limit resource overrides = (ctx.extend resource overrides).limited limit := by
  cases overrides <;> rfl

namespace Resolve

-- ======================================================= one element

/-- The texts of references that no other message is waiting for. -/
abbrev topText (ctx : Context) : Target → Except FormatError String :=
  textOf noRepeat ctx.maxDepth []

/-- The value of an element by itself. -/
def elementValue (ctx : Context) (e : Element) : Except FormatError Value :=
  value (topText ctx) ctx e

/-- The text of an element by itself is that of its value. -/
theorem formatText_singleton (ctx : Context) (e : Element) :
    formatText ctx (.pattern [e]) = Value.textOrEmpty <$> elementValue ctx e := by
  unfold formatText textFrom elementValue
  rw [messageText_pattern]
  simp [patternText]

/-- The value that an override binds: that of its element by itself, or
the value that it is. -/
def overrideValue (ctx : Context) : Override → Except FormatError Value
  | .element e => elementValue ctx e
  | .value v => .ok v

/-- The values of the segments and of the overrides of a reference, each
by itself in the context of the reference. -/
structure Evaluated (ctx : Context) (path : List Element)
    (overrides : Option (List (String × Override))) (segments : List Value)
    (bs : Option (Dictionary Value)) : Prop where
  segments : List.Forall₂ (fun e v => elementValue ctx e = .ok v) path segments
  bindings : Option.Rel
    (List.Forall₂ fun o b => o.1 = b.1 ∧ overrideValue ctx o.2 = .ok b.2) overrides bs

-- ============================================ the target of a reference

section Message

variable {μ : Type → Type} [Monad μ] [LawfulMonad μ]
variable (refer : Target → μ String) (referParts : Target → μ (List Part)) (ctx : Context)
variable (resource : Option String) (path : List Element)
variable (overrides : Option (List (String × Override)))

/-- The bindings of the overrides of a reference, if it has any. -/
def allBindings : Option (List (String × Override)) → μ (Option (Dictionary Value))
  | none => return none
  | some overrides => do
    let bs ← bindings refer ctx overrides
    return some bs

/-- What a reference leads to, once its segments and overrides are
resolved. -/
def targetOf : μ Target := do
  let segments ← values refer ctx path
  let bs ← allBindings refer ctx overrides
  return target ctx resource segments bs

theorem value_message :
    value refer ctx (.message resource path overrides) = (do
      let t ← targetOf refer ctx resource path overrides
      let text ← refer t
      return .string text) := by
  cases overrides <;> simp [value, targetOf, allBindings]

theorem part_message :
    part refer referParts ctx (.message resource path overrides) = (do
      let t ← targetOf refer ctx resource path overrides
      let ps ← referParts t
      return .message ps) := by
  cases overrides <;> simp [part, targetOf, allBindings]

end Message

-- ===================================================== runs that end well

variable {α β : Type}

/-- A sequence ends well if both computations do. -/
theorem ok_of_bind {x : Except FormatError α} {f : α → Except FormatError β} {b : β}
    (h : (x >>= f) = .ok b) : ∃ a, x = .ok a ∧ f a = .ok b := by
  cases x with
  | error e => exact nomatch h
  | ok a => exact ⟨a, rfl, h⟩

variable {ctx : Context} {resource : Option String} {path : List Element}
variable {overrides : Option (List (String × Override))}

theorem forall_of_values {refer : Target → Except FormatError String} {es : List Element}
    {vs : List Value} (h : values refer ctx es = .ok vs) :
    List.Forall₂ (fun e v => value refer ctx e = .ok v) es vs := by
  induction es generalizing vs with
  | nil =>
      cases h
      exact .nil
  | cons e rest ih =>
      rw [values] at h
      obtain ⟨v, hv, h⟩ := ok_of_bind h
      obtain ⟨vs', hvs, h⟩ := ok_of_bind h
      cases h
      exact .cons hv (ih hvs)

/-- Overrides are resolved one by one, none in sight of another. -/
theorem forall_of_bindings {bs : List (String × Override)} {frame : Dictionary Value}
    (h : bindings (topText ctx) ctx bs = .ok frame) :
    List.Forall₂ (fun o b => o.1 = b.1 ∧ overrideValue ctx o.2 = .ok b.2) bs frame := by
  induction bs generalizing frame with
  | nil =>
      cases h
      exact .nil
  | cons o rest ih =>
      obtain ⟨name, o⟩ := o
      cases o with
      | value v =>
          rw [bindings] at h
          obtain ⟨frame', hframe, h⟩ := ok_of_bind h
          cases h
          exact .cons ⟨rfl, rfl⟩ (ih hframe)
      | element e =>
          rw [bindings] at h
          obtain ⟨v, hv, h⟩ := ok_of_bind h
          obtain ⟨frame', hframe, h⟩ := ok_of_bind h
          cases h
          exact .cons ⟨rfl, hv⟩ (ih hframe)

/-- The target of a reference is made of values that are evaluated in the
context of the reference. -/
theorem evaluated_of_targetOf {t : Target}
    (h : targetOf (topText ctx) ctx resource path overrides = .ok t) :
    ∃ segments bs, Evaluated ctx path overrides segments bs ∧
      t = target ctx resource segments bs := by
  unfold targetOf at h
  obtain ⟨segments, hsegments, h⟩ := ok_of_bind h
  have hpath := forall_of_values hsegments
  cases overrides with
  | none =>
      cases h
      exact ⟨segments, none, ⟨hpath, .none⟩, rfl⟩
  | some os =>
      obtain ⟨bs, hbs, h⟩ := ok_of_bind h
      obtain ⟨frame, hframe, hbs⟩ := ok_of_bind hbs
      cases hbs
      cases h
      exact ⟨segments, some frame, ⟨hpath, .some (forall_of_bindings hframe)⟩, rfl⟩

-- ============================================== the message by itself

/-- By itself, a message has less in its way than behind its frame. -/
theorem looser_derived (ctx : Context) (limit : Nat) (resource : Option String)
    (bs : Option (Dictionary Value)) (f : Frame) :
    Looser (fun _ => True) limit limit [f] [] (ctx.extend resource bs)
      (ctx.derived limit resource bs) where
  twin := by
    rw [Context.derived_eq]
    exact (ctx.extend resource bs).twin_limited (ctx.extend resource bs).maxDepth limit
  roomier := Nat.le_refl limit
  fewer := List.nil_subset _
  -- What is refused behind the frame is of no interest here.
  limit := Or.inl trivial
  cycle := Or.inl fun _ => trivial

/-- The text of a reference is the text of its message by itself. -/
theorem formatText_of_textOf {limit : Nat} {segments : List Value} {bs : Option (Dictionary Value)}
    {m : Message} {s : String} (hm : (target ctx resource segments bs).message = some m)
    (h : (textOf noRepeat (limit + 1) [] (target ctx resource segments bs) :
      Except FormatError String) = .ok s) :
    formatText (ctx.derived limit resource bs) m = .ok s := by
  rw [textOf_entered hm rfl] at h
  exact ok_of_unlessRefused (messageText_looser (looser_derived ctx limit resource bs _) m) h

/-- The parts of a reference are the parts of its message by itself. -/
theorem formatParts_of_partsOf {limit : Nat} {segments : List Value}
    {bs : Option (Dictionary Value)} {m : Message} {ps : List Part}
    (hm : (target ctx resource segments bs).message = some m)
    (h : (partsOf noRepeat (limit + 1) [] (target ctx resource segments bs) :
      Except FormatError (List Part)) = .ok ps) :
    formatParts (ctx.derived limit resource bs) m = .ok ps := by
  rw [partsOf, referring_entered hm rfl] at h
  exact ok_of_unlessRefused (messageParts_looser (looser_derived ctx limit resource bs _) m) h

/-- A reference means its message. If a reference can be formatted, its
segments and overrides have values where it stands; and if its message is
found under them, the text of the reference is the text of the message by
itself, and its one part holds the parts of the message by itself, in the
derived context with one step less to go. -/
theorem reference_means_message (ctx : Context) (limit : Nat) (hlimit : ctx.maxDepth = limit + 1)
    (resource : Option String) (path : List Element)
    (overrides : Option (List (String × Override))) :
    (∀ s, formatText ctx (.pattern [.message resource path overrides]) = .ok s →
      ∃ segments bs, Evaluated ctx path overrides segments bs ∧
        ∀ m, ctx.messages (resource.or ctx.resourceId) (segments.map Value.text) = some m →
          formatText (ctx.derived limit resource bs) m = .ok s) ∧
    (∀ ps, formatParts ctx (.pattern [.message resource path overrides]) = .ok ps →
      ∃ segments bs, Evaluated ctx path overrides segments bs ∧
        ∀ m, ctx.messages (resource.or ctx.resourceId) (segments.map Value.text) = some m →
          ∃ inner, ps = [.message inner] ∧
            formatParts (ctx.derived limit resource bs) m = .ok inner) := by
  constructor
  · intro s h
    rw [formatText_singleton, elementValue, value_message] at h
    obtain ⟨v, hvalue, hv⟩ := ok_of_bind h
    obtain ⟨t, ht, hrefer⟩ := ok_of_bind hvalue
    obtain ⟨text, htext, htextValue⟩ := ok_of_bind hrefer
    cases htextValue
    cases hv
    obtain ⟨segments, bs, hevaluated, rfl⟩ := evaluated_of_targetOf ht
    rw [topText, hlimit] at htext
    exact ⟨segments, bs, hevaluated, fun m hm => formatText_of_textOf hm htext⟩
  · intro ps h
    unfold formatParts partsFrom at h
    rw [messageParts_pattern, patternParts, part_message] at h
    obtain ⟨p, hpart, hp⟩ := ok_of_bind h
    obtain ⟨t, ht, hrefer⟩ := ok_of_bind hpart
    obtain ⟨inner, hinner, hinnerPart⟩ := ok_of_bind hrefer
    cases hinnerPart
    cases hp
    obtain ⟨segments, bs, hevaluated, rfl⟩ := evaluated_of_targetOf ht
    rw [hlimit] at hinner
    exact ⟨segments, bs, hevaluated, fun m hm => ⟨inner, rfl, formatParts_of_partsOf hm hinner⟩⟩

/-- A variable without further keys. -/
def shownVariable (name : String) : Element := .variable [.literal (.string name)]

/-- A greeting of somebody from somewhere. -/
def greetingMessage : Message :=
  .pattern [.literal (.string "Hello, "), shownVariable "name", .literal (.string " from "),
    shownVariable "place"]

/-- The context of a resource beside the one that holds the greeting. -/
def besideGreeting : Context :=
  Catalog.context
    { Catalog.empty with
      resources := [("out", ⟨"out", "en", [("greeting", .message greetingMessage)]⟩)] }
    "res" (.ofDictionary [("name", .string "Bob"), ("place", .string "Oulu"),
      ("which", .string "greeting")])

/-- The overrides that swap name and place. -/
def swapped : List (String × Override) :=
  [("name", .element (shownVariable "place")), ("place", .element (shownVariable "name"))]

/-- Overrides that swap two variables see both as they were: the greeting
by itself, with the two swapped, gives what the reference gives. -/
theorem reference_means_message_swapped :
    ∃ bs, Evaluated besideGreeting [shownVariable "which"] (some swapped) [.string "greeting"] bs ∧
      formatText (besideGreeting.derived 63 (some "out") bs) greetingMessage
        = .ok "Hello, Oulu from Bob" := by
  have htext : formatText besideGreeting
      (.pattern [.message (some "out") [shownVariable "which"] (some swapped)])
        = .ok "Hello, Oulu from Bob" := rfl
  obtain ⟨segments, bs, hevaluated, hmeans⟩ :=
    (reference_means_message besideGreeting 63 rfl _ _ _).1 _ htext
  have hwhich : elementValue besideGreeting (shownVariable "which")
      = .ok (.string "greeting") := rfl
  obtain rfl : segments = [.string "greeting"] := by
    cases hevaluated.segments with
    | cons hsegment hrest =>
        cases hrest
        cases hwhich.symm.trans hsegment
        rfl
  exact ⟨bs, hevaluated, hmeans greetingMessage rfl⟩

end Resolve

end MessageCatalog
