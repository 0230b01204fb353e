/-
What the limit and the chain can change.

A run meets the limit of its context and the chain of messages behind it
only when a message is about to be entered, and there they can do nothing
but refuse. So a second run with less in its way does what the first one
does, step by step, until the first is refused: if it is not, both end
alike.

# Two runs in step

`Looser` says what less in the way means: contexts that show the same
variables and messages, at least as much room, and a chain with no other
frames. Which refusals may separate the two runs is left open (`E`): a
run with the same room is never cut off alone, and one behind the same
frames never reported alone. The relation is kept by every step into a
message (`Looser.enter`), and by induction on the room by every reference
(`textOf_looser`, `partsOf_looser`).

# The order of the tests

That a greater limit keeps the reports of cycles, with the same chain,
rests on the order in which a step is tested: a message that repeats is
reported also where no room is left, so a run is cut off only at messages
that the other run enters.
-/
import MessageCatalog.Proofs.Resolve.Cycle

namespace MessageCatalog.Resolve

-- ================================================ ending alike or refused

/-- Computations that end alike, unless the first ends with a refusal. -/
def unlessRefused (E : FormatError → Prop) :
    Correspondence (Except FormatError) (Except FormatError) where
  rel x y := x = y ∨ ∃ e, E e ∧ x = .error e
  rel_pure _ := Or.inl rfl
  rel_bind {_ _ x y f g} hxy hfg := by
    rcases hxy with rfl | ⟨e, he, rfl⟩
    · cases x with
      | error e => exact Or.inl rfl
      | ok a => exact hfg a
    · exact Or.inr ⟨e, he, rfl⟩

variable {E : FormatError → Prop} {α : Type}

/-- A run that ends well is not refused. -/
theorem ok_of_unlessRefused {x y : Except FormatError α} (h : (unlessRefused E).rel x y) {a : α}
    (hx : x = .ok a) : y = .ok a := by
  rcases h with rfl | ⟨e, -, he⟩
  · exact hx
  · rw [hx] at he
    exact nomatch he

-- =============================================================== marks

/-- What frames are told apart by. -/
def Frame.mark (f : Frame) : String × Dictionary Value := (f.key, f.visible)

/-- The marks of the frames in a chain. -/
def marks (chain : Chain) : List (String × Dictionary Value) := chain.map Frame.mark

theorem marks_push (chain : Chain) (f : Frame) : marks (chain ++ [f]) = marks chain ++ [f.mark] :=
  List.map_append

/-- Whether a frame repeats can be read off the marks. -/
theorem noRepeat_eq_any (chain : Chain) (f : Frame) :
    noRepeat chain f
      = (marks chain).any fun k => k.1 == f.mark.1 && Value.samePairs k.2 f.mark.2 := by
  unfold noRepeat marks
  rw [List.any_map]
  rfl

/-- The keys of a chain can be read off its marks. -/
theorem keys_eq_map_marks (chain : Chain) : chain.map Frame.key = (marks chain).map Prod.fst := by
  unfold marks
  rw [List.map_map]
  rfl

theorem Target.Twin.mark {t u : Target} (h : t.Twin u) : t.frame.mark = u.frame.mark :=
  Prod.ext h.key h.visible

/-- A frame that repeats none of more frames repeats none of fewer. -/
theorem noRepeat_of_subset {chain chain' : Chain} (h : marks chain' ⊆ marks chain) {f f' : Frame}
    (hmark : f.mark = f'.mark) (hnone : noRepeat chain f = false) : noRepeat chain' f' = false := by
  rw [noRepeat_eq_any] at hnone ⊢
  rw [← hmark]
  rw [List.any_eq_false] at hnone ⊢
  exact fun k hk => hnone k (h hk)

-- ======================================================== two runs in step

/-- A step into a message is there if there is room for one; within the
message there is room for one less. -/
def within {β : Type} (body : Nat → β) : (room : Nat) → Option β
  | 0 => none
  | room + 1 => some (body room)

theorem textOf_eq_referring {guarded : Guard} (room : Nat) (chain : Chain) (t : Target) :
    (textOf guarded room chain t : Except FormatError String)
      = referring placeholder guarded chain
          (within (fun room longer => messageText (textOf guarded room longer)) room) t := by
  cases room <;> rfl

theorem partsOf_eq_referring {guarded : Guard} (room : Nat) (chain : Chain) (t : Target) :
    (partsOf guarded room chain t : Except FormatError (List Part))
      = referring noParts guarded chain
          (within (fun room longer =>
            messageParts (textOf guarded room longer) (partsOf guarded room longer)) room) t := by
  cases room <;> rfl

/-- A second run has less in its way than a first one. What separates
them, if anything does, is among the refusals `E`. -/
structure Looser (E : FormatError → Prop) (room room' : Nat) (chain chain' : Chain)
    (c d : Context) : Prop where
  twin : c.Twin d
  roomier : room ≤ room'
  fewer : marks chain' ⊆ marks chain
  limit : E (.maxDepthExceeded c.maxDepth) ∨ room = room' ∧ c.maxDepth = d.maxDepth
  cycle : (∀ keys, E (.cyclicReference keys)) ∨ marks chain = marks chain'

namespace Looser

variable {room room' : Nat} {chain chain' : Chain} {c d : Context}

/-- Within a message that both runs enter, the second one still has less
in its way. -/
theorem enter (h : Looser E (room + 1) (room' + 1) chain chain' c d) (resource : Option String)
    (segments : List Value) (overrides : Option (Dictionary Value)) :
    Looser E room room'
      (chain ++ [(target c resource segments overrides).frame])
      (chain' ++ [(target d resource segments overrides).frame])
      (c.extend resource overrides) (d.extend resource overrides) := by
  have hmark := (target_twin h.twin resource segments overrides).mark
  have hroom := h.roomier
  refine ⟨h.twin.extend resource overrides, by omega, ?_, ?_, ?_⟩
  · intro k hk
    rw [marks_push, ← hmark] at hk
    rw [marks_push]
    rcases List.mem_append.mp hk with hk | hk
    · exact List.mem_append_left _ (h.fewer hk)
    · exact List.mem_append_right _ hk
  · exact h.limit.imp_right fun ⟨hroom, hlimit⟩ => ⟨by omega, hlimit⟩
  · refine h.cycle.imp_right fun hmarks => ?_
    rw [marks_push, marks_push, hmark, hmarks]

/-- The two runs treat a reference alike if they treat its message alike. -/
theorem referring (h : Looser E room room' chain chain' c d) {resource : Option String}
    {segments : List Value} {overrides : Option (Dictionary Value)} {missing : List String → α}
    {body body' : Nat → Chain → Context → Message → Except FormatError α}
    (hbody : ∀ n n', room = n + 1 → room' = n' + 1 → ∀ m, (unlessRefused E).rel
      (body n (chain ++ [(target c resource segments overrides).frame])
        (c.extend resource overrides) m)
      (body' n' (chain' ++ [(target d resource segments overrides).frame])
        (d.extend resource overrides) m)) :
    (unlessRefused E).rel
      (Resolve.referring missing noRepeat chain (within body room)
        (target c resource segments overrides))
      (Resolve.referring missing noRepeat chain' (within body' room')
        (target d resource segments overrides)) := by
  have htwin := target_twin h.twin resource segments overrides
  cases hm : (target c resource segments overrides).message with
  | none =>
      rw [referring_missing hm, referring_missing (htwin.message ▸ hm), htwin.path]
      exact Or.inl rfl
  | some m =>
      have hm' := htwin.message ▸ hm
      cases hg : noRepeat chain (target c resource segments overrides).frame with
      | true =>
          rw [referring_cyclic hm hg]
          -- Reports may separate the runs, or else the chains look the same
          -- and the second run makes the same report.
          rcases h.cycle with hcycle | hmarks
          · exact Or.inr ⟨_, hcycle _, rfl⟩
          · have hg' := hg
            rw [noRepeat_eq_any, hmarks, htwin.mark, ← noRepeat_eq_any] at hg'
            rw [referring_cyclic hm' hg', keys_eq_map_marks, keys_eq_map_marks, marks_push,
              marks_push, hmarks, htwin.mark]
            exact Or.inl rfl
      | false =>
          have hg' := noRepeat_of_subset h.fewer htwin.mark hg
          cases room with
          | zero =>
              rw [within, referring_tooDeep hm hg]
              -- The limit may separate the runs, or else both are at it.
              rcases h.limit with hlimit | ⟨rfl, hlimit⟩
              · exact Or.inr ⟨_, hlimit, rfl⟩
              · rw [within, referring_tooDeep hm' hg']
                exact Or.inl (congrArg (Except.error ∘ FormatError.maxDepthExceeded) hlimit)
          | succ n =>
              have hroom := h.roomier
              obtain ⟨n', rfl⟩ : ∃ n', room' = n' + 1 := ⟨room' - 1, by omega⟩
              rw [within, within, referring_entered hm hg, referring_entered hm' hg']
              exact hbody n n' rfl rfl m

end Looser

variable {room room' : Nat} {chain chain' : Chain} {c d : Context}

theorem textOf_looser (h : Looser E room room' chain chain' c d) :
    (unlessRefused E).References c d (textOf noRepeat room chain)
      (textOf noRepeat room' chain') := by
  intro resource segments overrides
  induction room generalizing room' chain chain' c d resource segments overrides with
  | zero =>
      rw [textOf_eq_referring, textOf_eq_referring]
      exact h.referring nofun
  | succ room ih =>
      rw [textOf_eq_referring, textOf_eq_referring]
      refine h.referring fun n n' hn hn' m => ?_
      cases hn
      cases hn'
      have henter := h.enter resource segments overrides
      exact (unlessRefused E).messageText_rel henter.twin.toAgree (fun _ _ _ => ih henter _ _ _) m

theorem partsOf_looser (h : Looser E room room' chain chain' c d) :
    (unlessRefused E).References c d (partsOf noRepeat room chain)
      (partsOf noRepeat room' chain') := by
  intro resource segments overrides
  induction room generalizing room' chain chain' c d resource segments overrides with
  | zero =>
      rw [partsOf_eq_referring, partsOf_eq_referring]
      exact h.referring nofun
  | succ room ih =>
      rw [partsOf_eq_referring, partsOf_eq_referring]
      refine h.referring fun n n' hn hn' m => ?_
      cases hn
      cases hn'
      have henter := h.enter resource segments overrides
      exact (unlessRefused E).messageParts_rel henter.twin.toAgree (textOf_looser henter)
        (fun _ _ _ => ih henter _ _ _) m

/-- With less in its way a message has the same text, unless it was
refused. -/
theorem messageText_looser (h : Looser E room room' chain chain' c d) (m : Message) :
    (unlessRefused E).rel (messageText (textOf noRepeat room chain) c m)
      (messageText (textOf noRepeat room' chain') d m) :=
  (unlessRefused E).messageText_rel h.twin.toAgree (textOf_looser h) m

/-- With less in its way a message has the same parts, unless it was
refused. -/
theorem messageParts_looser (h : Looser E room room' chain chain' c d) (m : Message) :
    (unlessRefused E).rel
      (messageParts (textOf noRepeat room chain) (partsOf noRepeat room chain) c m)
      (messageParts (textOf noRepeat room' chain') (partsOf noRepeat room' chain') d m) :=
  (unlessRefused E).messageParts_rel h.twin.toAgree (textOf_looser h) (partsOf_looser h) m

-- ========================================================= whole runs

/-- Behind the empty chain a greater limit is all that is less in the way
of a message. -/
theorem looser_limited (ctx : Context) {limit limit' : Nat} (h : limit ≤ limit') :
    Looser (· = .maxDepthExceeded limit) limit limit' [] [] (ctx.limited limit)
      (ctx.limited limit') where
  twin := ctx.twin_limited limit limit'
  roomier := h
  fewer := List.Subset.refl _
  limit := Or.inl rfl
  cycle := Or.inr rfl

/-- The limit only cuts off. What is formatted within a limit, to a text
or to parts, or reported as a cycle there, comes out the same within any
greater limit. -/
theorem limit_only_cuts_off (ctx : Context) (m : Message) {limit limit' : Nat}
    (h : limit ≤ limit') :
    (formatText (ctx.limited limit) m ≠ .error (.maxDepthExceeded limit) →
      formatText (ctx.limited limit') m = formatText (ctx.limited limit) m) ∧
    (formatParts (ctx.limited limit) m ≠ .error (.maxDepthExceeded limit) →
      formatParts (ctx.limited limit') m = formatParts (ctx.limited limit) m) := by
  have hlooser := looser_limited ctx h
  constructor
  · intro hcut
    rcases messageText_looser hlooser m with heq | ⟨e, rfl, he⟩
    · exact heq.symm
    · exact absurd he hcut
  · intro hcut
    rcases messageParts_looser hlooser m with heq | ⟨e, rfl, he⟩
    · exact heq.symm
    · exact absurd he hcut

/-- A message that refers to itself is reported as a cycle within the limit
of one message, and so within the limit of nine. -/
theorem limit_only_cuts_off_loop :
    formatText ((contextOf [("loop", .message (reference ["loop"]))]).limited 9)
      (reference ["loop"]) = .error (.cyclicReference ["res:loop", "res:loop"]) := by
  let ctx := contextOf [("loop", .message (reference ["loop"]))]
  have hone : formatText (ctx.limited 1) (reference ["loop"])
      = .error (.cyclicReference ["res:loop", "res:loop"]) := rfl
  have hcut : formatText (ctx.limited 1) (reference ["loop"])
      ≠ .error (.maxDepthExceeded 1) := by
    rw [hone]
    nofun
  exact ((limit_only_cuts_off ctx (reference ["loop"]) (by decide)).1 hcut).trans hone

end MessageCatalog.Resolve
