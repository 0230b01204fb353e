/-
Contexts that a message cannot tell apart.

A message reaches its context in four ways: it looks up variables, it
calls functions, it selects by categories, and it refers to other
messages. The first three read the scope through look-ups only and the
functions through their successful results only, so contexts that agree
on those two give every element the same value once its references are
resolved (`Context.Agree`). Contexts that also look up messages alike
stay alike on the way into referenced messages (`Context.Alike`). What
the frames of a chain keep are all visible variables at once, so chains
stay comparable too if the scopes show the same ones (`Context.Twin`).
None of these looks at the limit of a context.
-/
import MessageCatalog.Resolve

namespace MessageCatalog

namespace Context

variable {c d : Context}

/-- Variables have the same values and calls have the same results. -/
structure Agree (c d : Context) : Prop where
  get : ∀ name, c.scope.get? name = d.scope.get? name
  result : ∀ kind name options args,
    c.functions.result? c.locales kind name options args
      = d.functions.result? d.locales kind name options args

namespace Agree

theorem refl (c : Context) : c.Agree c := ⟨fun _ => rfl, fun _ _ _ _ => rfl⟩

theorem walk (h : c.Agree d) (keys : List Value) : c.scope.walk keys = d.scope.walk keys := by
  unfold Scope.walk
  cases keys with
  | nil => rfl
  | cons first rest =>
      simp only [Scope.walk?]
      rw [h.get first.text]

theorem callFormat (h : c.Agree d) (name : String) (options : Options) (args : List Value) :
    c.callFormat name options args = d.callFormat name options args := by
  unfold Context.callFormat
  rw [h.result]

theorem callSelect (h : c.Agree d) (name : String) (options : Options) (args : List Value) :
    c.callSelect name options args = d.callSelect name options args := by
  unfold Context.callSelect
  rw [h.result]

theorem matchValue (h : c.Agree d) (v : Value) : c.matchValue v = d.matchValue v := by
  unfold Context.matchValue
  cases v with
  | number x => simp only [h.result]
  | _ => rfl

/-- Overriding the same variables keeps two scopes in agreement. -/
theorem extend (h : c.Agree d) (resource resource' : Option String)
    (overrides : Option (Dictionary Value)) :
    (c.extend resource overrides).Agree (d.extend resource' overrides) := by
  refine ⟨fun name => ?_, h.result⟩
  cases overrides with
  | none => exact h.get name
  | some frame =>
      show (c.scope.push frame).get? name = (d.scope.push frame).get? name
      rw [Scope.get?_push, Scope.get?_push, h.get]

end Agree

/-- Contexts that agree and look up the same messages. -/
structure Alike (c d : Context) : Prop extends Agree c d where
  messages : c.messages = d.messages
  resource : c.resourceId = d.resourceId

namespace Alike

theorem refl (c : Context) : c.Alike c := ⟨.refl c, rfl, rfl⟩

theorem message? (h : c.Alike d) (resource : Option String) (path : List String) :
    c.message? resource path = d.message? resource path := by
  unfold Context.message?
  rw [h.messages, h.resource]

theorem extend (h : c.Alike d) (resource : Option String)
    (overrides : Option (Dictionary Value)) :
    (c.extend resource overrides).Alike (d.extend resource overrides) := by
  refine ⟨h.toAgree.extend resource resource overrides, h.messages, ?_⟩
  show resource.or c.resourceId = resource.or d.resourceId
  rw [h.resource]

end Alike

/-- Contexts that are alike and show the same variables. -/
structure Twin (c d : Context) : Prop extends Alike c d where
  visible : c.scope.flatten = d.scope.flatten

namespace Twin

theorem refl (c : Context) : c.Twin c := ⟨.refl c, rfl⟩

theorem extend (h : c.Twin d) (resource : Option String)
    (overrides : Option (Dictionary Value)) :
    (c.extend resource overrides).Twin (d.extend resource overrides) := by
  refine ⟨h.toAlike.extend resource overrides, ?_⟩
  cases overrides with
  | none => exact h.visible
  | some frame =>
      show (c.scope.push frame).flatten = (d.scope.push frame).flatten
      rw [Scope.flatten_push, Scope.flatten_push, h.visible]

end Twin

/-- A context with another limit. -/
def limited (c : Context) (limit : Nat) : Context := { c with maxDepth := limit }

/-- The limit of a context is no part of what a message sees. -/
theorem twin_limited (c : Context) (limit limit' : Nat) :
    (c.limited limit).Twin (c.limited limit') :=
  ⟨⟨⟨fun _ => rfl, fun _ _ _ _ => rfl⟩, rfl, rfl⟩, rfl⟩

/-- Contexts with the same settings: all but the scope and the resource,
which no reference changes. -/
structure SameSettings (c d : Context) : Prop where
  locales : c.locales = d.locales
  functions : c.functions = d.functions
  messages : c.messages = d.messages
  maxDepth : c.maxDepth = d.maxDepth

namespace SameSettings

theorem refl (c : Context) : c.SameSettings c := ⟨rfl, rfl, rfl, rfl⟩

theorem extend (h : c.SameSettings d) (resource : Option String)
    (overrides : Option (Dictionary Value)) : (c.extend resource overrides).SameSettings d :=
  ⟨h.locales, h.functions, h.messages, h.maxDepth⟩

/-- With the same settings, the same resource and the same visible
variables, contexts are alike. -/
theorem alike {e : Context} (hc : c.SameSettings e) (hd : d.SameSettings e)
    (hresource : c.resourceId = d.resourceId) (hvisible : c.scope.flatten = d.scope.flatten) :
    c.Alike d where
  get := Scope.get?_eq_of_visible hvisible
  result kind name options args := by
    rw [hc.functions, hc.locales, hd.functions, hd.locales]
  messages := hc.messages.trans hd.messages.symm
  resource := hresource

end SameSettings

end Context

namespace Resolve

/-- Targets with the same path and message in contexts that are alike. -/
structure Target.Alike (t u : Target) : Prop where
  path : t.path = u.path
  message : t.message = u.message
  context : t.context.Alike u.context

/-- Targets with the same path and message in twin contexts. -/
structure Target.Twin (t u : Target) : Prop where
  path : t.path = u.path
  message : t.message = u.message
  context : t.context.Twin u.context

namespace Target.Twin

variable {t u : Target}

theorem key (h : t.Twin u) : t.key = u.key := by
  unfold Target.key
  rw [h.context.resource, h.path]

theorem visible (h : t.Twin u) : t.visible = u.visible := h.context.visible

end Target.Twin

/-- A reference leads to twin targets from twin contexts. -/
theorem target_twin {c d : Context} (h : c.Twin d) (resource : Option String)
    (segments : List Value) (overrides : Option (Dictionary Value)) :
    (target c resource segments overrides).Twin (target d resource segments overrides) :=
  ⟨rfl, h.message? resource _, h.extend resource overrides⟩

/-- A reference leads to targets alike from contexts that are alike. -/
theorem target_alike {c d : Context} (h : c.Alike d) (resource : Option String)
    (segments : List Value) (overrides : Option (Dictionary Value)) :
    (target c resource segments overrides).Alike (target d resource segments overrides) :=
  ⟨rfl, h.message? resource _, h.extend resource overrides⟩

end Resolve

end MessageCatalog
