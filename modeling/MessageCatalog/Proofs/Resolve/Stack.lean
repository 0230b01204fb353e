/-
Resolving on a stack.

Here the messages being resolved are not handed down. One stack is
shared by the whole run: a reference pushes its frame, resolves its
message and pops the frame again, and nothing but the stack says how deep
the run is. This recursion has no number of steps to count down, and a
message that is referred to is no part of the one that refers to it.

# Why it ends

What limits the recursion is the stack: a frame is pushed only onto a
stack shorter than the limit, so the limit less the length of the stack
drops at every step into a message, and it is back when the message is
done (`Resolver.Recurs.text_eq`). By induction on this number every
answer of the recursion is determined: it has exactly one solution
(`recurs_iff`), in which the room is that number, and what it leaves on
the stack is what it found there.
-/
import MessageCatalog.Proofs.Resolve.Pieces

namespace MessageCatalog.Resolve

-- =========================================================== the stack

/-- A computation on a stack of frames, the innermost last. -/
abbrev OnStack (μ : Type → Type) := StateT Chain μ

section Machine

variable {μ : Type → Type} [Resolving μ] {α : Type}

/-- Puts the frame of a message on the stack, unless it is there already
or the stack is full. -/
def push (t : Target) : OnStack μ Unit := fun stack =>
  if stack.any fun f => f.same t.frame then do
    Resolving.note ⟨stack, t, .cyclic⟩
    Resolving.stop (.cyclicReference ((stack ++ [t.frame]).map Frame.key))
  else if t.context.maxDepth ≤ stack.length then do
    Resolving.note ⟨stack, t, .tooDeep⟩
    Resolving.stop (.maxDepthExceeded t.context.maxDepth)
  else do
    Resolving.note ⟨stack, t, .entered⟩
    return ((), stack ++ [t.frame])

/-- Takes the last frame off the stack. -/
def pop : OnStack μ Unit := fun stack => return ((), stack.dropLast)

/-- What a target stands for: what its message gives between a push and a
pop, or what is shown for a missing one. -/
def through (missing : List String → α) (body : Context → Message → OnStack μ α) (t : Target) :
    OnStack μ α :=
  match t.message with
  | none => fun stack => do
    Resolving.note ⟨stack, t, .missing⟩
    return (missing t.path, stack)
  | some m => do
    push t
    let a ← body t.context m
    pop
    return a

end Machine

/-- Answers for all references, on all stacks. -/
structure Resolver (μ : Type → Type) where
  text : Target → OnStack μ String
  parts : Target → OnStack μ (List Part)

/-- The recursion: the answer for a reference is that of its message, whose
references are answered in turn. -/
structure Resolver.Recurs {μ : Type → Type} [Resolving μ] (r : Resolver μ) : Prop where
  text : ∀ t, r.text t = through placeholder (messageText r.text) t
  parts : ∀ t, r.parts t = through noParts (messageParts r.text r.parts) t

-- ================================================= the stack is restored

section Restored

variable {μ : Type → Type} [Resolving μ] [LawfulResolving μ] {α : Type}

/-- What happens on a stack, and leaves it as it was, is what happens
without one. -/
def keeping (stack : Chain) : Correspondence (OnStack μ) μ where
  rel x y := x stack = (fun a => (a, stack)) <$> y
  rel_pure a := by
    rw [map_pure]
    rfl
  rel_bind {_ _ x y f g} hxy hfg := by
    show (x stack >>= fun p => f p.1 p.2) = _
    rw [hxy, map_bind, bind_map_left]
    exact bind_congr hfg

/-- Between push and pop the stack is longer by a frame; the walk handed
the longer chain down instead. `inner` is there exactly if the stack may
still grow. -/
theorem through_eq {missing : List String → α} {body : Context → Message → OnStack μ α}
    {inner : Option (Chain → Context → Message → μ α)} {t : Target} {stack : Chain}
    (hnone : inner = none → t.context.maxDepth ≤ stack.length)
    (hsome : ∀ within ∈ inner, stack.length < t.context.maxDepth ∧ ∀ m,
      body t.context m (stack ++ [t.frame])
        = (fun a => (a, stack ++ [t.frame])) <$> within (stack ++ [t.frame]) t.context m) :
    through missing body t stack
      = (fun a => (a, stack)) <$> referring missing noRepeat stack inner t := by
  unfold through
  cases hm : t.message with
  | none =>
      rw [referring_missing hm]
      simp
  | some m =>
      show (push t stack >>= fun p => body t.context m p.2 >>= fun q =>
        pop q.2 >>= fun r => pure (q.1, r.2)) = _
      unfold push
      cases hg : stack.any fun f => f.same t.frame with
      -- A push that is refused stops the run, so there is no pop to follow.
      | true =>
          rw [referring_cyclic hm hg]
          simp [map_stop, LawfulResolving.stop_bind]
      | false =>
          cases inner with
          | none =>
              rw [referring_tooDeep hm hg, if_neg Bool.false_ne_true, if_pos (hnone rfl)]
              simp [map_stop, LawfulResolving.stop_bind]
          | some within =>
              obtain ⟨hlt, hbody⟩ := hsome within rfl
              rw [referring_entered hm hg, if_neg Bool.false_ne_true, if_neg (by omega)]
              simp [hbody m, pop]

-- ======================================================== one solution

namespace Resolver

/-- The answers of the walk, with the stack as the chain. -/
def walk : Resolver μ where
  text t stack := (fun s => (s, stack)) <$>
    textOf noRepeat (t.context.maxDepth - stack.length) stack t
  parts t stack := (fun ps => (ps, stack)) <$>
    partsOf noRepeat (t.context.maxDepth - stack.length) stack t

variable {r : Resolver μ} {t : Target} {stack : Chain}

/-- The limit less the length of the stack drops with every frame. -/
theorem room_push (limit : Nat) (f : Frame) :
    limit - (stack ++ [f]).length = limit - stack.length - 1 := by
  rw [List.length_append, List.length_singleton, Nat.sub_add_eq]

/-- One step of the recursion gives the answer of the walk if the answers
on the longer stack are those of the walk. -/
theorem through_text {text : Target → OnStack μ String}
    (h : stack.length < t.context.maxDepth → ∀ resource segments overrides,
      text (target t.context resource segments overrides) (stack ++ [t.frame])
        = walk.text (target t.context resource segments overrides) (stack ++ [t.frame])) :
    through placeholder (messageText text) t stack = walk.text t stack := by
  show _ = (fun s => (s, stack)) <$>
    textOf noRepeat (t.context.maxDepth - stack.length) stack t
  cases hroom : t.context.maxDepth - stack.length with
  | zero => exact through_eq (fun _ => by omega) (by simp)
  | succ room =>
      refine through_eq (by simp) fun within hwithin => ⟨by omega, fun m => ?_⟩
      cases hwithin
      have hlength : t.context.maxDepth - (stack ++ [t.frame]).length = room := by
        rw [room_push, hroom, Nat.add_sub_cancel]
      refine (keeping _).messageText_rel (.refl _) (fun resource segments overrides => ?_) m
      rw [← hlength]
      exact h (by omega) resource segments overrides

theorem through_parts {text : Target → OnStack μ String} {parts : Target → OnStack μ (List Part)}
    (h : stack.length < t.context.maxDepth → ∀ resource segments overrides,
      text (target t.context resource segments overrides) (stack ++ [t.frame])
        = walk.text (target t.context resource segments overrides) (stack ++ [t.frame]))
    (hparts : stack.length < t.context.maxDepth → ∀ resource segments overrides,
      parts (target t.context resource segments overrides) (stack ++ [t.frame])
        = walk.parts (target t.context resource segments overrides) (stack ++ [t.frame])) :
    through noParts (messageParts text parts) t stack = walk.parts t stack := by
  show _ = (fun ps => (ps, stack)) <$>
    partsOf noRepeat (t.context.maxDepth - stack.length) stack t
  cases hroom : t.context.maxDepth - stack.length with
  | zero => exact through_eq (fun _ => by omega) (by simp)
  | succ room =>
      refine through_eq (by simp) fun within hwithin => ⟨by omega, fun m => ?_⟩
      cases hwithin
      have hlength : t.context.maxDepth - (stack ++ [t.frame]).length = room := by
        rw [room_push, hroom, Nat.add_sub_cancel]
      refine (keeping _).messageParts_rel (.refl _) (fun resource segments overrides => ?_)
        (fun resource segments overrides => ?_) m
      · rw [← hlength]
        exact h (by omega) resource segments overrides
      · rw [← hlength]
        exact hparts (by omega) resource segments overrides

theorem Recurs.text_eq (h : r.Recurs) (t : Target) (stack : Chain) :
    r.text t stack = walk.text t stack := by
  rw [h.text]
  exact through_text fun hlt resource segments overrides => Recurs.text_eq h _ _
termination_by t.context.maxDepth - stack.length
decreasing_by
  show t.context.maxDepth - (stack ++ [t.frame]).length < _
  rw [room_push]
  omega

theorem Recurs.parts_eq (h : r.Recurs) (t : Target) (stack : Chain) :
    r.parts t stack = walk.parts t stack := by
  rw [h.parts]
  exact through_parts (fun _ _ _ _ => h.text_eq _ _)
    fun hlt resource segments overrides => Recurs.parts_eq h _ _
termination_by t.context.maxDepth - stack.length
decreasing_by
  show t.context.maxDepth - (stack ++ [t.frame]).length < _
  rw [room_push]
  omega

/-- The recursion has one solution. -/
theorem recurs_iff : r.Recurs ↔ r = walk := by
  constructor
  · intro h
    obtain ⟨text, parts⟩ := r
    rw [mk.injEq]
    exact ⟨funext fun t => funext fun stack => h.text_eq t stack,
      funext fun t => funext fun stack => h.parts_eq t stack⟩
  · rintro rfl
    exact ⟨fun t => funext fun stack => (through_text fun _ _ _ _ => rfl).symm,
      fun t => funext fun stack =>
        (through_parts (fun _ _ _ _ => rfl) fun _ _ _ _ => rfl).symm⟩

-- ========================================================= whole runs

/-- The text of a message, run on an empty stack. -/
def runText (r : Resolver μ) (ctx : Context) (m : Message) : μ (String × Chain) :=
  messageText r.text ctx m []

/-- The parts of a message, run on an empty stack. -/
def runParts (r : Resolver μ) (ctx : Context) (m : Message) : μ (List Part × Chain) :=
  messageParts r.text r.parts ctx m []

/-- A run on an empty stack leaves it empty and gives what the walk gives. -/
theorem runText_walk (ctx : Context) (m : Message) :
    (walk : Resolver μ).runText ctx m = (fun s => (s, [])) <$> textFrom noRepeat ctx m := by
  refine (keeping []).messageText_rel (.refl ctx) (fun _ _ _ => ?_) m
  rfl

theorem runParts_walk (ctx : Context) (m : Message) :
    (walk : Resolver μ).runParts ctx m = (fun ps => (ps, [])) <$> partsFrom noRepeat ctx m := by
  refine (keeping []).messageParts_rel (.refl ctx) (fun _ _ _ => ?_) (fun _ _ _ => ?_) m
  · rfl
  · rfl

end Resolver

end Restored

/-- How a run in a context may end: well, with a cycle, or at the limit of
the context. -/
inductive Ended (ctx : Context) {α : Type} : Except FormatError α → Prop where
  | ok (a : α) : Ended ctx (.ok a)
  | cyclic (keys : List String) : Ended ctx (.error (.cyclicReference keys))
  | tooDeep : Ended ctx (.error (.maxDepthExceeded ctx.maxDepth))

/-- The stack is within a limit, also when the visited message is on it. -/
structure Visit.Within (limit : Nat) (v : Visit) : Prop where
  before : v.chain.length ≤ limit
  after : v.outcome = .entered → (v.chain ++ [v.target.frame]).length ≤ limit

namespace Visit.Sound

variable {root : Context} {v : Visit} {guarded : Guard} {e : FormatError}

theorem within (h : v.Sound guarded root) : v.Within root.maxDepth where
  before := h.depth
  after hentered := by
    cases h.decided with
    | entered _ _ _ hroom =>
        rw [List.length_append, List.length_singleton]
        exact hroom
    | missing houtcome => exact nomatch houtcome.symm.trans hentered
    | cyclic houtcome => exact nomatch houtcome.symm.trans hentered
    | tooDeep houtcome => exact nomatch houtcome.symm.trans hentered

/-- Only messages that were found are refused. -/
theorem found_of_refusal (h : v.Sound guarded root) (he : v.refusal = some e) :
    v.target.message.isSome := by
  cases h.decided with
  | missing hmissing =>
      rw [refusal, hmissing] at he
      cases he
  | cyclic _ hfound => exact hfound
  | tooDeep _ hfound => exact hfound
  | entered _ hfound => exact hfound

theorem ended (h : v.Sound guarded root) (he : v.refusal = some e) {α : Type} :
    Ended root (.error e : Except FormatError α) := by
  unfold refusal at he
  cases hv : v.outcome with
  | cyclic =>
      rw [hv] at he
      cases he
      exact .cyclic _
  | tooDeep =>
      rw [hv] at he
      cases he
      rw [h.target.settings.maxDepth]
      exact .tooDeep
  | _ =>
      rw [hv] at he
      cases he

end Visit.Sound

/-- Resolution is total. The recursion on a stack has one solution, whose
runs from the empty stack are formatting and leave the stack empty; the
stack stays within the limit; and a run ends well or with the refusal of a
message that was found, as a cycle or at the limit of the context. -/
theorem resolution_total (ctx : Context) (m : Message) :
    ∃ r : Resolver Traced, (∀ r' : Resolver Traced, r'.Recurs ↔ r' = r) ∧
      (r.runText ctx m).result = (fun s => (s, [])) <$> formatText ctx m ∧
      (r.runParts ctx m).result = (fun ps => (ps, [])) <$> formatParts ctx m ∧
      (∀ v ∈ (r.runText ctx m).visits, v.Within ctx.maxDepth) ∧
      (∀ v ∈ (r.runParts ctx m).visits, v.Within ctx.maxDepth) ∧
      Ended ctx (formatText ctx m) ∧ Ended ctx (formatParts ctx m) ∧
      ∀ e, formatText ctx m = .error e ∨ formatParts ctx m = .error e →
        ∃ v ∈ (r.runText ctx m).visits, v.target.message.isSome ∧ v.refusal = some e := by
  have htext : (Resolver.walk.runText ctx m : Traced _).visits = textVisits ctx m := by
    rw [Resolver.runText_walk, Traced.visits_map]
    rfl
  have hparts : (Resolver.walk.runParts ctx m : Traced _).visits = textVisits ctx m := by
    rw [Resolver.runParts_walk, Traced.visits_map, ← partsVisits_eq]
    rfl
  have hrefused : ∀ e, formatText ctx m = .error e →
      ∃ v ∈ textVisits ctx m, v.Sound noRepeat ctx ∧ v.refusal = some e := by
    intro e he
    obtain ⟨v, hv, hrefusal⟩ := formatText_error_iff.mp he
    exact ⟨v, hv, textVisits_sound v hv, hrefusal⟩
  refine ⟨.walk, fun r' => Resolver.recurs_iff, ?_, ?_, ?_, ?_, ?_, ?_, fun e he => ?_⟩
  · rw [Resolver.runText_walk, Traced.result_map, result_textFrom]
    rfl
  · rw [Resolver.runParts_walk, Traced.result_map, result_partsFrom]
    rfl
  · rw [htext]
    exact fun v hv => (textVisits_sound v hv).within
  · rw [hparts]
    exact fun v hv => (textVisits_sound v hv).within
  · cases he : formatText ctx m with
    | ok s => exact .ok s
    | error e =>
        obtain ⟨v, -, hsound, hrefusal⟩ := hrefused e he
        exact hsound.ended hrefusal
  · cases he : formatParts ctx m with
    | ok ps => exact .ok ps
    | error e =>
        obtain ⟨v, -, hsound, hrefusal⟩ := hrefused e (formatParts_error_iff.mp he)
        exact hsound.ended hrefusal
  · rw [htext]
    obtain ⟨v, hv, hsound, hrefusal⟩ := hrefused e (he.elim id formatParts_error_iff.mp)
    exact ⟨v, hv, hsound.found_of_refusal hrefusal, hrefusal⟩

end MessageCatalog.Resolve
