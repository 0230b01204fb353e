/-
Two ways to answer lookups.

A resource answers lookups for its own id and lookups that name no
resource; a catalog answers only those that name one. In a run this makes
no difference. A reference looks up under the id that it names, or else
under the id of the context that it stands in, and its message is resolved
in a context with that id. So a run that starts in a resource never looks
up without an id, also not behind a reference to a resource that is not
there, and answers to lookups without one do not count
(`Named.extend`, `simulation_unchanged`).

To lookups with an id a resource and a catalog that holds nothing but this
resource give the same answers (`Catalog.Only.lookup_eq`), so it is the
same to format over either of them (`Catalog.Only.formats_alike`).
-/
import MessageCatalog.Proofs.Catalog
import MessageCatalog.Proofs.Resolve.Simulation

namespace MessageCatalog

namespace Resolve

/-- Contexts in step that have a resource, and whose lookups give the same
answers wherever a resource is named. -/
structure Named (c d : Context) : Prop extends InStep c d where
  named : ∃ id, c.resourceId = some id
  messages : ∀ id path, c.messages (some id) path = d.messages (some id) path

/-- The same message in such contexts. -/
def Unchanged : Relation := fun c m d m' => Named c d ∧ m = m'

namespace Named

variable {c d : Context}

/-- A reference goes on in the resource that it names or in the one that it
stands in, and never in none. -/
theorem extend (h : Named c d) (resource : Option String)
    (overrides : Option (Dictionary Value)) :
    Named (c.extend resource overrides) (d.extend resource overrides) where
  toInStep := h.toInStep.extend resource overrides
  named := by
    obtain ⟨id, hid⟩ := h.named
    cases resource with
    | none => exact ⟨id, hid⟩
    | some other => exact ⟨other, rfl⟩
  messages := h.messages

/-- A reference leads to the same message. -/
theorem matched (h : Named c d) (resource : Option String) (segments : List Value)
    (overrides : Option (Dictionary Value)) :
    Matched Unchanged (target c resource segments overrides)
      (target d resource segments overrides) := by
  have hextend := h.extend resource overrides
  refine ⟨rfl, mark_of_inStep rfl hextend.toInStep, h.maxDepth, ?_⟩
  obtain ⟨id, hid⟩ : ∃ id, resource.or c.resourceId = some id := hextend.named
  show Option.Rel _ (c.messages (resource.or c.resourceId) (segments.map Value.text))
    (d.messages (resource.or d.resourceId) (segments.map Value.text))
  rw [← h.resource, hid, ← h.messages]
  cases c.messages (some id) (segments.map Value.text) with
  | none => exact .none
  | some m => exact .some ⟨hextend, rfl⟩

end Named

theorem simulation_unchanged : Simulation Unchanged where
  text := by
    rintro c m d _ ⟨hnamed, rfl⟩ refer refer' hrefer
    exact identical.messageText_rel hnamed.toAgree
      (fun _ _ _ => hrefer _ _ (hnamed.matched ..)) m
  parts := by
    rintro c m d _ ⟨hnamed, rfl⟩ refer refer' referParts referParts' hrefer hreferParts
    exact identical.messageParts_rel hnamed.toAgree
      (fun _ _ _ => hrefer _ _ (hnamed.matched ..))
      (fun _ _ _ => hreferParts _ _ (hnamed.matched ..)) m

end Resolve

-- ============================================================ catalogs

namespace Catalog

open Resolve

variable {c : Catalog} {r : Resource}

/-- The catalog holds the resource and no other one. -/
def Only (c : Catalog) (r : Resource) : Prop :=
  ∀ id, c.resource? id = if id = r.id then some r else none

/-- This is what adding the first resource leads to. -/
theorem only_add (h : c.resources = []) (r : Resource) : (c.add r).2.Only r := by
  intro id
  by_cases hid : id = r.id
  · rw [if_pos hid, hid, resource?_add_self]
  · rw [if_neg hid, resource?_add_of_ne hid, resource?, h, Dictionary.get?_nil]

namespace Only

/-- Lookups that name a resource get the same answers from both. -/
theorem lookup_eq (h : c.Only r) (id : String) (path : List String) :
    r.lookup (some id) path = c.lookup (some id) path := by
  show (if id = r.id then r.message? path else none) = (c.resource? id).bind (·.message? path)
  rw [h id]
  split
  · rfl
  · rfl

/-- Over a resource and over a catalog of this resource alone, a context in
the resource goes on with the same answers. -/
theorem named (h : c.Only r) {ctx : Context} (hid : ctx.resourceId = some r.id) :
    Named { ctx with messages := r.lookup } { ctx with messages := c.lookup } where
  get _ := rfl
  result _ _ _ _ := rfl
  resource := rfl
  visible := rfl
  maxDepth := rfl
  named := ⟨r.id, hid⟩
  messages := h.lookup_eq

/-- The two ways to answer lookups agree. In every context in a resource,
every message has the same text and the same parts, or the same error,
over the resource and over a catalog that holds only this resource. -/
theorem formats_alike (h : c.Only r) {ctx : Context} (hid : ctx.resourceId = some r.id)
    (m : Message) :
    formatText { ctx with messages := r.lookup } m
        = formatText { ctx with messages := c.lookup } m ∧
      formatParts { ctx with messages := r.lookup } m
        = formatParts { ctx with messages := c.lookup } m := by
  have hrelated : Unchanged _ m _ m := ⟨h.named hid, rfl⟩
  exact ⟨formatText_of_simulation simulation_unchanged hrelated rfl,
    formatParts_of_simulation simulation_unchanged hrelated rfl⟩

/-- A resource whose messages refer to one another by its id and without
one, and to another resource. -/
def crossing : Resource :=
  ⟨"res", "en",
    [("again", .message (.pattern [.message (some "res") [.literal (.string "again")] none])),
      ("name", .message (.pattern [.variable [.literal (.string "who")]])),
      ("start", .message (.pattern
        [.message none [.literal (.string "name")] none,
          .message (some "res") [.literal (.string "name")]
            (some [("who", .element (.literal (.string "Bob")))]),
          .message (some "out") [.literal (.string "name")] none]))]⟩

/-- A context in the resource, with its lookups still to be chosen. -/
def crossingContext : Context :=
  ⟨["en"], .builtin, fun _ _ => none, some "res", .ofDictionary [("who", .string "Ann")], 4⟩

/-- The message at a path of this resource. -/
def crossingMessage (name : String) : Message :=
  .pattern [.message none [.literal (.string name)] none]

theorem formats_alike_crossing :
    (empty.add crossing).2.Only crossing ∧ crossingContext.resourceId = some crossing.id ∧
    formatText { crossingContext with messages := crossing.lookup } (crossingMessage "start")
      = .ok "AnnBob\x7bname\x7d" ∧
    formatParts { crossingContext with messages := crossing.lookup } (crossingMessage "again")
      = .error (.cyclicReference ["res:again", "res:again"]) := by
  have honly : (empty.add crossing).2.Only crossing := only_add rfl crossing
  have htext : formatText { crossingContext with messages := (empty.add crossing).2.lookup }
      (crossingMessage "start") = .ok "AnnBob\x7bname\x7d" := rfl
  have hparts : formatParts { crossingContext with messages := (empty.add crossing).2.lookup }
      (crossingMessage "again") = .error (.cyclicReference ["res:again", "res:again"]) := rfl
  exact ⟨honly, rfl, (formats_alike honly rfl _).1.trans htext,
    (formats_alike honly rfl _).2.trans hparts⟩

end Only

end Catalog

end MessageCatalog
