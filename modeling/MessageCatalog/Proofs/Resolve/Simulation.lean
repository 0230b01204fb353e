/-
Runs side by side.

Two runs come out the same if they look the same from outside at every
reference: the same path, a frame with the same mark, the same limit, and
a message on the one side exactly if there is one on the other
(`Matched`). What the two messages have to do with each other is left
open; it is a relation between a message in its context and a message in
another one, and all that is asked of it is kept within a message: related
messages have the same text and the same parts as soon as matched targets
stand for the same (`Simulation`).

One induction on the room then takes a simulation from a message to a
whole run (`formatText_of_simulation`, `formatParts_of_simulation`). The
marks of the two chains stay equal on the way, so cycles are reported at
the same references and with the same keys, and the room runs out at the
same depth.

Contexts that look the same but for their lookups are in step (`InStep`),
and references keep them in step.
-/
import MessageCatalog.Proofs.Resolve.Limit

namespace MessageCatalog.Resolve

-- ============================================================ contexts

/-- Contexts that look the same to a message, whatever their lookups find
and however their scopes are layered. -/
structure InStep (c d : Context) : Prop extends Context.Agree c d where
  resource : c.resourceId = d.resourceId
  visible : c.scope.flatten = d.scope.flatten
  maxDepth : c.maxDepth = d.maxDepth

namespace InStep

variable {c d : Context}

theorem extend (h : InStep c d) (resource : Option String)
    (overrides : Option (Dictionary Value)) :
    InStep (c.extend resource overrides) (d.extend resource overrides) := by
  refine ⟨h.toAgree.extend resource resource overrides, ?_, ?_, h.maxDepth⟩
  · show resource.or c.resourceId = resource.or d.resourceId
    rw [h.resource]
  · cases overrides with
    | none => exact h.visible
    | some frame =>
        show (c.scope.push frame).flatten = (d.scope.push frame).flatten
        rw [Scope.flatten_push, Scope.flatten_push, h.visible]

end InStep

/-- Targets with the same path in contexts that are in step have frames
with the same mark. -/
theorem mark_of_inStep {t u : Target} (hpath : t.path = u.path)
    (h : InStep t.context u.context) : t.frame.mark = u.frame.mark := by
  refine Prod.ext ?_ h.visible
  show t.key = u.key
  unfold Target.key
  rw [h.resource, hpath]

-- ========================================================== simulations

/-- Computations that are the same. -/
def identical : Correspondence (Except FormatError) (Except FormatError) where
  rel x y := x = y
  rel_pure _ := rfl
  rel_bind {_ _ x y f g} hxy hfg := by
    subst hxy
    rw [funext hfg]

/-- What a message in its context may have to do with a message in another
context. -/
abbrev Relation := Context → Message → Context → Message → Prop

/-- Targets that look the same from outside, with related messages or
none. -/
structure Matched (S : Relation) (t u : Target) : Prop where
  path : t.path = u.path
  mark : t.frame.mark = u.frame.mark
  maxDepth : t.context.maxDepth = u.context.maxDepth
  message : Option.Rel (fun m m' => S t.context m u.context m') t.message u.message

/-- Related messages come out the same if matched targets do. -/
structure Simulation (S : Relation) : Prop where
  text : ∀ {c m d m'}, S c m d m' → ∀ {refer refer' : Target → Except FormatError String},
    (∀ t u, Matched S t u → refer t = refer' u) →
      messageText refer c m = messageText refer' d m'
  parts : ∀ {c m d m'}, S c m d m' → ∀ {refer refer' : Target → Except FormatError String}
    {referParts referParts' : Target → Except FormatError (List Part)},
    (∀ t u, Matched S t u → refer t = refer' u) →
    (∀ t u, Matched S t u → referParts t = referParts' u) →
      messageParts refer referParts c m = messageParts refer' referParts' d m'

variable {S : Relation} {chain chain' : Chain} {room : Nat} {t u : Target}

theorem Matched.marks_push (h : Matched S t u) (hmarks : marks chain = marks chain') :
    marks (chain ++ [t.frame]) = marks (chain' ++ [u.frame]) := by
  rw [Resolve.marks_push, Resolve.marks_push, hmarks, h.mark]

/-- Behind chains that look the same, a step into matched targets is
refused on both sides, for the same reason, or goes into two related
messages. -/
theorem referring_matched {α : Type} (h : Matched S t u) (hmarks : marks chain = marks chain')
    {missing : List String → α} {body : Nat → Chain → Context → Message → Except FormatError α}
    (hbody : ∀ n, room = n + 1 → ∀ m m', S t.context m u.context m' →
      body n (chain ++ [t.frame]) t.context m = body n (chain' ++ [u.frame]) u.context m') :
    referring missing noRepeat chain (within body room) t
      = referring missing noRepeat chain' (within body room) u := by
  have hrepeat : noRepeat chain t.frame = noRepeat chain' u.frame := by
    rw [noRepeat_eq_any, noRepeat_eq_any, hmarks, h.mark]
  have hmessage := h.message
  cases hm : t.message with
  | none =>
      rw [hm] at hmessage
      cases hm' : u.message with
      | some _ => rw [hm'] at hmessage; exact nomatch hmessage
      | none =>
          rw [referring_missing hm, referring_missing hm', h.path]
          rfl
  | some m =>
      rw [hm] at hmessage
      cases hm' : u.message with
      | none => rw [hm'] at hmessage; exact nomatch hmessage
      | some m' =>
          rw [hm'] at hmessage
          cases hg : noRepeat chain t.frame with
          | true =>
              rw [referring_cyclic hm hg, referring_cyclic hm' (hrepeat ▸ hg), keys_eq_map_marks,
                keys_eq_map_marks, h.marks_push hmarks]
              rfl
          | false =>
              have hg' := hrepeat ▸ hg
              cases room with
              | zero =>
                  rw [within, referring_tooDeep hm hg, referring_tooDeep hm' hg']
                  exact congrArg (Except.error ∘ FormatError.maxDepthExceeded) h.maxDepth
              | succ n =>
                  rw [within, referring_entered hm hg, referring_entered hm' hg']
                  cases hmessage with
                  | some hrelated => exact hbody n rfl m m' hrelated

-- ========================================================== references

/-- In a simulation, matched targets have the same text. The induction is
on the room, which is the same on both sides. -/
theorem textOf_of_simulation (hS : Simulation S) (h : Matched S t u)
    (hmarks : marks chain = marks chain') :
    (textOf noRepeat room chain t : Except FormatError String)
      = textOf noRepeat room chain' u := by
  induction room generalizing chain chain' t u with
  | zero =>
      rw [textOf_eq_referring, textOf_eq_referring]
      exact referring_matched h hmarks nofun
  | succ room ih =>
      rw [textOf_eq_referring, textOf_eq_referring]
      refine referring_matched h hmarks fun n hn m m' hrelated => ?_
      cases hn
      exact hS.text hrelated fun _ _ hinner => ih hinner (h.marks_push hmarks)

/-- In a simulation, matched targets have the same parts. -/
theorem partsOf_of_simulation (hS : Simulation S) (h : Matched S t u)
    (hmarks : marks chain = marks chain') :
    (partsOf noRepeat room chain t : Except FormatError (List Part))
      = partsOf noRepeat room chain' u := by
  induction room generalizing chain chain' t u with
  | zero =>
      rw [partsOf_eq_referring, partsOf_eq_referring]
      exact referring_matched h hmarks nofun
  | succ room ih =>
      rw [partsOf_eq_referring, partsOf_eq_referring]
      refine referring_matched h hmarks fun n hn m m' hrelated => ?_
      cases hn
      have hlonger := h.marks_push hmarks
      exact hS.parts hrelated (fun _ _ hinner => textOf_of_simulation hS hinner hlonger)
        fun _ _ hinner => ih hinner hlonger

-- ========================================================= whole runs

variable {c d : Context} {m m' : Message}

/-- Messages that a simulation relates have the same text, or the same
error, in contexts with the same limit. -/
theorem formatText_of_simulation (hS : Simulation S) (h : S c m d m')
    (hlimit : c.maxDepth = d.maxDepth) : formatText c m = formatText d m' := by
  unfold formatText textFrom
  rw [hlimit]
  exact hS.text h fun _ _ hmatched => textOf_of_simulation hS hmatched rfl

/-- Messages that a simulation relates have the same parts, or the same
error, in contexts with the same limit. -/
theorem formatParts_of_simulation (hS : Simulation S) (h : S c m d m')
    (hlimit : c.maxDepth = d.maxDepth) : formatParts c m = formatParts d m' := by
  unfold formatParts partsFrom
  rw [hlimit]
  exact hS.parts h (fun _ _ hmatched => textOf_of_simulation hS hmatched rfl)
    fun _ _ hmatched => partsOf_of_simulation hS hmatched rfl

end MessageCatalog.Resolve
