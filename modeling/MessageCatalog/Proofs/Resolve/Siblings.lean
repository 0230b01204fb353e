/-
Elements side by side.

The text of two patterns in a row is the text of the one and the text of
the other. For the walk this is plain: what it hands down to an element is
the same for all elements of a pattern (`textFrom_append`,
`partsFrom_append`).

On a stack it is not. There the second pattern finds whatever the first
one has left behind, and a single frame too many would make its references
look like repetitions or bring it closer to the limit. That nothing is
left is what the recursion's one solution says (`Resolver.recurs_iff`): a
run ends well on the stack it began with, and an error ends the whole run
before anything else can look at the stack. So the second pattern may as
well be run on its own, on an empty stack (`Resolver.runText_append`,
`Resolver.runParts_append`).
-/
import MessageCatalog.Proofs.Resolve.Cycle
import MessageCatalog.Proofs.Resolve.Stack

namespace MessageCatalog.Resolve

-- ==================================================== within a message

section Message

variable {μ : Type → Type} [Monad μ] [LawfulMonad μ]
variable (refer : Target → μ String) (referParts : Target → μ (List Part)) (ctx : Context)

theorem messageText_pattern (p : Pattern) :
    messageText refer ctx (.pattern p) = patternText refer ctx p := by
  unfold messageText pattern
  rw [pure_bind]

theorem messageParts_pattern (p : Pattern) :
    messageParts refer referParts ctx (.pattern p) = patternParts refer referParts ctx p := by
  unfold messageParts pattern
  rw [pure_bind]

theorem patternText_append (p q : Pattern) :
    patternText refer ctx (p ++ q) = (do
      let s ← patternText refer ctx p
      let t ← patternText refer ctx q
      return s ++ t) := by
  induction p with
  | nil => simp only [List.nil_append, patternText, pure_bind, String.empty_append, bind_pure]
  | cons e rest ih =>
      rw [List.cons_append, patternText, patternText, ih]
      simp only [bind_assoc, pure_bind, String.append_assoc]

theorem patternParts_append (p q : Pattern) :
    patternParts refer referParts ctx (p ++ q) = (do
      let ps ← patternParts refer referParts ctx p
      let qs ← patternParts refer referParts ctx q
      return ps ++ qs) := by
  induction p with
  | nil => simp only [List.nil_append, patternParts, pure_bind, bind_pure]
  | cons e rest ih =>
      rw [List.cons_append, patternParts, patternParts, ih]
      simp only [bind_assoc, pure_bind, List.cons_append]

end Message

-- ========================================================= whole runs

section Runs

variable {μ : Type → Type} [Resolving μ] [LawfulResolving μ]

theorem textFrom_append (guarded : Guard) (ctx : Context) (p q : Pattern) :
    (textFrom guarded ctx (.pattern (p ++ q)) : μ String) = (do
      let s ← textFrom guarded ctx (.pattern p)
      let t ← textFrom guarded ctx (.pattern q)
      return s ++ t) := by
  unfold textFrom
  simp only [messageText_pattern, patternText_append]

theorem partsFrom_append (guarded : Guard) (ctx : Context) (p q : Pattern) :
    (partsFrom guarded ctx (.pattern (p ++ q)) : μ (List Part)) = (do
      let ps ← partsFrom guarded ctx (.pattern p)
      let qs ← partsFrom guarded ctx (.pattern q)
      return ps ++ qs) := by
  unfold partsFrom
  simp only [messageParts_pattern, patternParts_append]

namespace Resolver

variable {r : Resolver μ}

/-- On one stack, the second pattern runs as it does on a stack of its
own. -/
theorem runText_append (h : r.Recurs) (ctx : Context) (p q : Pattern) :
    r.runText ctx (.pattern (p ++ q)) = (do
      let (s, _) ← r.runText ctx (.pattern p)
      let (t, stack) ← r.runText ctx (.pattern q)
      return (s ++ t, stack)) := by
  rw [recurs_iff.mp h]
  simp only [runText_walk, textFrom_append, map_bind, map_pure, bind_map_left]

theorem runParts_append (h : r.Recurs) (ctx : Context) (p q : Pattern) :
    r.runParts ctx (.pattern (p ++ q)) = (do
      let (ps, _) ← r.runParts ctx (.pattern p)
      let (qs, stack) ← r.runParts ctx (.pattern q)
      return (ps ++ qs, stack)) := by
  rw [recurs_iff.mp h]
  simp only [runParts_walk, partsFrom_append, map_bind, map_pure, bind_map_left]

end Resolver

end Runs

/-- Formatting takes patterns in a row one by one: it fails with the error
of the first that fails, and puts texts and parts one after the other. On
a stack shared by both, the second pattern meets the same references on
the same stacks as on an empty stack of its own. -/
theorem format_append (ctx : Context) (p q : Pattern) :
    formatText ctx (.pattern (p ++ q)) = (do
      let s ← formatText ctx (.pattern p)
      let t ← formatText ctx (.pattern q)
      return s ++ t) ∧
    formatParts ctx (.pattern (p ++ q)) = (do
      let ps ← formatParts ctx (.pattern p)
      let qs ← formatParts ctx (.pattern q)
      return ps ++ qs) ∧
    ∀ r : Resolver Traced, r.Recurs →
      r.runText ctx (.pattern (p ++ q)) = (do
        let (s, _) ← r.runText ctx (.pattern p)
        let (t, stack) ← r.runText ctx (.pattern q)
        return (s ++ t, stack)) ∧
      r.runParts ctx (.pattern (p ++ q)) = (do
        let (ps, _) ← r.runParts ctx (.pattern p)
        let (qs, stack) ← r.runParts ctx (.pattern q)
        return (ps ++ qs, stack)) :=
  ⟨textFrom_append noRepeat ctx p q, partsFrom_append noRepeat ctx p q,
    fun _ h => ⟨Resolver.runText_append h ctx p q, Resolver.runParts_append h ctx p q⟩⟩

/-- A reference to a message that shows the variable `n`. -/
def toShown (overrides : Option (List (String × Override))) : Element :=
  .message none [.literal (.string "shown")] overrides

/-- A context of that message, in which `n` is Bob. -/
def shownContext : Context :=
  { contextOf [("shown", .message (.pattern [.variable [.literal (.string "n")]]))] with
    scope := .ofDictionary [("n", .string "Bob")] }

/-- What the first of two references to a message overrides, the second
one does not see. -/
theorem format_append_shown :
    formatText shownContext
        (.pattern ([toShown (some [("n", .value (.string "Ann"))])] ++ [toShown none]))
      = .ok "AnnBob" ∧
    ((Resolver.walk : Resolver Traced).runText shownContext
        (.pattern ([toShown (some [("n", .value (.string "Ann"))])] ++ [toShown none]))).result
      = .ok ("AnnBob", []) := by
  have h := format_append shownContext [toShown (some [("n", .value (.string "Ann"))])]
    [toShown none]
  have hrecurs : (Resolver.walk : Resolver Traced).Recurs := Resolver.recurs_iff.mpr rfl
  refine ⟨h.1.trans rfl, ?_⟩
  rw [(h.2.2 _ hrecurs).1]
  rfl

end MessageCatalog.Resolve
