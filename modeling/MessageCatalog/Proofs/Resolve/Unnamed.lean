/-
Resources that a run cannot get to.

A run starts in one resource and comes into another one only through a
reference that names it: the paths of references may be worked out while
the run goes on, but the ids of resources are written down. So if no
message outside a resource names it, a run that starts outside stays
outside, through whatever paths and overrides it goes (`Outside.extend`).
There the lookups of two catalogs that differ in that resource alone find
the same messages, none of which names it, and to go on with the same
message is a simulation (`simulation_confined`).

So it does not matter for the other resources whether that resource is
there, and what it holds (`Catalog.format_add_of_neverNames`). What it
names itself is of no interest.
-/
import MessageCatalog.Proofs.Catalog
import MessageCatalog.Proofs.Resolve.Reference
import MessageCatalog.Proofs.Resolve.Simulation

namespace MessageCatalog

namespace Resolve

/-- A reference that does not name a resource. -/
def Avoids (id : String) : OfReference := fun resource _ _ => resource ≠ some id

/-- Contexts in step that are outside a resource, whose lookups find the
same messages there, none of which names the resource. -/
structure Outside (id : String) (c d : Context) : Prop extends InStep c d where
  elsewhere : c.resourceId ≠ some id
  messages : ∀ resource path, resource ≠ some id →
    c.messages resource path = d.messages resource path
  avoids : ∀ resource path m, resource ≠ some id → c.messages resource path = some m →
    m.EveryReference (Avoids id)

/-- The same message in contexts outside a resource, which it does not
name. -/
def Confined (id : String) : Relation := fun c m d m' =>
  Outside id c d ∧ m = m' ∧ m.EveryReference (Avoids id)

namespace Outside

variable {id : String} {c d : Context} {resource : Option String}

/-- A reference that does not name the resource goes on in another one:
the one that it names, or the one that it stands in. -/
theorem elsewhere_or (h : Outside id c d) (hresource : resource ≠ some id) :
    resource.or c.resourceId ≠ some id := by
  cases resource with
  | none => exact h.elsewhere
  | some other => exact hresource

theorem extend (h : Outside id c d) (hresource : resource ≠ some id)
    (overrides : Option (Dictionary Value)) :
    Outside id (c.extend resource overrides) (d.extend resource overrides) where
  toInStep := h.toInStep.extend resource overrides
  elsewhere := h.elsewhere_or hresource
  messages := h.messages
  avoids := h.avoids

/-- A reference that does not name the resource leads to the same message,
which does not name it either. -/
theorem matched (h : Outside id c d) (hresource : resource ≠ some id) (segments : List Value)
    (overrides : Option (Dictionary Value)) :
    Matched (Confined id) (target c resource segments overrides)
      (target d resource segments overrides) := by
  have hextend := h.extend hresource overrides
  refine ⟨rfl, mark_of_inStep rfl hextend.toInStep, h.maxDepth, ?_⟩
  show Option.Rel _ (c.messages (resource.or c.resourceId) (segments.map Value.text))
    (d.messages (resource.or d.resourceId) (segments.map Value.text))
  have helsewhere := h.elsewhere_or hresource
  rw [← h.resource, ← h.messages _ _ helsewhere]
  cases hm : c.messages (resource.or c.resourceId) (segments.map Value.text) with
  | none => exact .none
  | some m => exact .some ⟨hextend, rfl, h.avoids _ _ m helsewhere hm⟩

end Outside

theorem simulation_confined (id : String) : Simulation (Confined id) where
  text := by
    rintro c m d _ ⟨houtside, rfl, hm⟩ refer refer' hrefer
    exact identical.messageText_rel_of houtside.toAgree
      (fun _ _ _ hresource _ _ _ => hrefer _ _ (houtside.matched hresource ..)) m hm
  parts := by
    rintro c m d _ ⟨houtside, rfl, hm⟩ refer refer' referParts referParts' hrefer hreferParts
    exact identical.messageParts_rel_of houtside.toAgree
      (fun _ _ _ hresource _ _ _ => hrefer _ _ (houtside.matched hresource ..))
      (fun _ _ _ hresource _ _ _ => hreferParts _ _ (houtside.matched hresource ..)) m hm

end Resolve

-- ============================================================ catalogs

namespace Catalog

open Resolve

variable {c : Catalog} {x : Resource} {id : String}

/-- No message outside the resource with an id names it. -/
def NeverNames (c : Catalog) (id : String) : Prop :=
  ∀ q ∈ c.listing, q.1.1 ≠ id → q.2.EveryReference (Avoids id)

theorem NeverNames.of_lookup (h : c.NeverNames id) {resource : Option String}
    (hresource : resource ≠ some id) {path : List String} {m : Message}
    (hm : c.lookup resource path = some m) : m.EveryReference (Avoids id) := by
  obtain ⟨other, rfl, hlisted⟩ := mem_listing hm
  exact h _ hlisted fun heq => hresource (congrArg some heq)

theorem lookup_add_of_ne {resource : Option String} (h : resource ≠ some x.id)
    (path : List String) : (c.add x).2.lookup resource path = c.lookup resource path := by
  cases resource with
  | none => rfl
  | some id =>
      unfold lookup
      rw [Option.bind_some, Option.bind_some, resource?_add_of_ne fun heq => h (congrArg some heq)]

theorem requireMessage_add_of_ne (h : id ≠ x.id) (path : List String) :
    (c.add x).2.requireMessage id path = c.requireMessage id path := by
  rw [requireMessage_eq, requireMessage_eq,
    lookup_add_of_ne fun heq => h (Option.some.inj heq)]

/-- With a resource added and without it, runs start outside of it. -/
theorem outside_add (h : c.NeverNames x.id) (hid : id ≠ x.id) (scope : Scope) :
    Outside x.id (c.context id scope) ((c.add x).2.context id scope) where
  get _ := rfl
  result _ _ _ _ := rfl
  resource := rfl
  visible := rfl
  maxDepth := rfl
  elsewhere := fun heq => hid (Option.some.inj heq)
  messages _ path hresource := (lookup_add_of_ne hresource path).symm
  avoids _ _ _ hresource hm := h.of_lookup hresource hm

/-- Formatting depends only on the resources that it can name. If no
message outside a resource names it, adding this resource, in place of one
with its id or not, changes neither text nor parts nor errors of anything
under another id. -/
theorem format_add_of_neverNames (h : c.NeverNames x.id) (hid : id ≠ x.id) (path : List String)
    (bindings : Dictionary Value) :
    (c.add x).2.format id path bindings = c.format id path bindings ∧
      (c.add x).2.formatToParts id path bindings = c.formatToParts id path bindings := by
  unfold format formatToParts
  rw [requireMessage_add_of_ne hid]
  cases hm : c.requireMessage id path with
  | error e => exact ⟨rfl, rfl⟩
  | ok m =>
      have hid' : some id ≠ some x.id := fun heq => hid (Option.some.inj heq)
      have hmessage := h.of_lookup hid' (lookup_of_requireMessage hm)
      have houtside := outside_add h hid (.ofDictionary bindings)
      have hrelated : Confined x.id _ m _ m := ⟨houtside, rfl, hmessage⟩
      have hsimulation := simulation_confined x.id
      exact ⟨(formatText_of_simulation hsimulation hrelated houtside.maxDepth).symm,
        (formatParts_of_simulation hsimulation hrelated houtside.maxDepth).symm⟩

/-- A resource that goes through another one, beside one that names only
itself. -/
def neighbours : Catalog :=
  { empty with
    resources :=
      [("apart", ⟨"apart", "en", [("again", .message (.pattern
          [.message (some "apart") [.literal (.string "again")] none]))]⟩),
        ("out", ⟨"out", "en", [("greeting", .message greetingMessage)]⟩),
        ("res", ⟨"res", "en", [("start", .message (.pattern
          [.message (some "out") [shownVariable "which"] (some swapped)]))]⟩)] }

/-- Another resource for the one that names only itself, with a message of
the same path as the greeting. -/
def newcomer : Resource := ⟨"apart", "en", [("greeting", .message (.pattern []))]⟩

/-- That it takes the place of the other is not seen in the resource that
leads to the greeting. -/
theorem format_add_of_neverNames_newcomer :
    neighbours.NeverNames newcomer.id ∧ (neighbours.resource? newcomer.id).isSome ∧
    (neighbours.add newcomer).2.format "res" ["start"]
        [("name", .string "Bob"), ("place", .string "Oulu"), ("which", .string "greeting")]
      = .ok "Hello, Oulu from Bob" := by
  have hnames : neighbours.NeverNames newcomer.id := by
    simp [NeverNames, listing, neighbours, newcomer, Resource.messages, messagesOfEntries,
      Entry.messages, greetingMessage, shownVariable, swapped, Message.EveryReference,
      EveryReferenceIn, EveryReferenceOf, Element.EveryReference, Avoids]
  have hid : "res" ≠ newcomer.id := by decide
  have hformat : neighbours.format "res" ["start"]
      [("name", .string "Bob"), ("place", .string "Oulu"), ("which", .string "greeting")]
        = .ok "Hello, Oulu from Bob" := rfl
  exact ⟨hnames, rfl, (format_add_of_neverNames hnames hid _ _).1.trans hformat⟩

end Catalog

end MessageCatalog
