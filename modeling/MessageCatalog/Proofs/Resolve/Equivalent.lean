/-
Messages that stand for the same.

Two messages are equivalent if they lead to the same pattern in every
context, whatever references stand for. A run cannot tell them apart, and
so it cannot tell apart two lookups that find equivalent messages under
the same resource and path (`Parallel`): to go on side by side with
equivalent messages is a simulation (`simulation_alternative`).

So whatever replaces every message of a catalog by an equivalent one
changes no result (`formatText_parallel`, `formatParts_parallel`).
-/
import MessageCatalog.Proofs.Resolve.Simulation

namespace MessageCatalog.Resolve

-- ============================================================ messages

/-- Messages that lead to the same pattern in every context, whatever
references stand for. -/
def Equivalent (m m' : Message) : Prop :=
  ∀ (refer : Target → Except FormatError String) (ctx : Context),
    pattern refer ctx m = pattern refer ctx m'

namespace Equivalent

variable {m m' : Message}

theorem refl (m : Message) : Equivalent m m := fun _ _ => rfl

theorem text (h : Equivalent m m') (refer : Target → Except FormatError String) (ctx : Context) :
    messageText refer ctx m = messageText refer ctx m' := messageText_congr (h refer ctx)

theorem parts (h : Equivalent m m') (refer : Target → Except FormatError String)
    (referParts : Target → Except FormatError (List Part)) (ctx : Context) :
    messageParts refer referParts ctx m = messageParts refer referParts ctx m' :=
  messageParts_congr (h refer ctx) referParts

end Equivalent

-- ============================================================ contexts

/-- Contexts that differ in nothing but the messages that lookups find, and
there only by equivalent ones. -/
structure Parallel (c d : Context) : Prop extends Context.Agree c d where
  resource : c.resourceId = d.resourceId
  visible : c.scope.flatten = d.scope.flatten
  maxDepth : c.maxDepth = d.maxDepth
  messages : ∀ resource path,
    Option.Rel Equivalent (c.messages resource path) (d.messages resource path)

namespace Parallel

variable {c d : Context}

theorem inStep (h : Parallel c d) : InStep c d :=
  ⟨h.toAgree, h.resource, h.visible, h.maxDepth⟩

theorem extend (h : Parallel c d) (resource : Option String)
    (overrides : Option (Dictionary Value)) :
    Parallel (c.extend resource overrides) (d.extend resource overrides) :=
  { h.inStep.extend resource overrides with messages := h.messages }

end Parallel

/-- Equivalent messages in parallel contexts. -/
def Alternative : Relation := fun c m d m' => Parallel c d ∧ Equivalent m m'

variable {c d : Context} {m m' : Message}

/-- A reference leads to equivalent messages, in contexts that are parallel
again. -/
theorem Parallel.matched (h : Parallel c d) (resource : Option String) (segments : List Value)
    (overrides : Option (Dictionary Value)) :
    Matched Alternative (target c resource segments overrides)
      (target d resource segments overrides) := by
  have hextend := h.extend resource overrides
  refine ⟨rfl, mark_of_inStep rfl hextend.inStep, h.maxDepth, ?_⟩
  have hmessage : Option.Rel Equivalent (target c resource segments overrides).message
      (target d resource segments overrides).message := by
    show Option.Rel Equivalent (c.messages (resource.or c.resourceId) _)
      (d.messages (resource.or d.resourceId) _)
    rw [h.resource]
    exact h.messages _ _
  generalize (target c resource segments overrides).message = found at hmessage ⊢
  generalize (target d resource segments overrides).message = found' at hmessage ⊢
  cases hmessage with
  | none => exact .none
  | some hequiv => exact .some ⟨hextend, hequiv⟩

theorem simulation_alternative : Simulation Alternative where
  text := by
    rintro c m d m' ⟨hparallel, hequiv⟩ refer refer' hrefer
    rw [hequiv.text]
    exact identical.messageText_rel hparallel.toAgree
      (fun _ _ _ => hrefer _ _ (hparallel.matched ..)) m'
  parts := by
    rintro c m d m' ⟨hparallel, hequiv⟩ refer refer' referParts referParts' hrefer hreferParts
    rw [hequiv.parts]
    exact identical.messageParts_rel hparallel.toAgree
      (fun _ _ _ => hrefer _ _ (hparallel.matched ..))
      (fun _ _ _ => hreferParts _ _ (hparallel.matched ..)) m'

-- ========================================================= whole runs

/-- Equivalent messages have the same text in parallel contexts. -/
theorem formatText_parallel (h : Parallel c d) (hm : Equivalent m m') :
    formatText c m = formatText d m' :=
  formatText_of_simulation simulation_alternative ⟨h, hm⟩ h.maxDepth

/-- Equivalent messages have the same parts in parallel contexts. -/
theorem formatParts_parallel (h : Parallel c d) (hm : Equivalent m m') :
    formatParts c m = formatParts d m' :=
  formatParts_of_simulation simulation_alternative ⟨h, hm⟩ h.maxDepth

end MessageCatalog.Resolve
