/-
Resolving with a record.

`Traced` is a computation that keeps its visits: every reference that was
met, in order, with the chain at that moment and what became of it. The
record changes nothing (`result_textFrom`, `result_partsFrom`), and it
explains everything about how a run ends: an error is always the refusal
of a visit, and a refused visit always ends the run
(`formatText_error_iff`).

# What a visit looks like

`Visit.Sound` collects what holds of every visit of a run. The settings
are those of the outermost context; the message is the one that the
lookup has under the resource and path of the target; the chain is no
longer than the context allows and holds messages that were found; and
the outcome is the one that chain, target and limit call for, in the
order in which a step into a message is tested. One induction on the room
that is left proves all of this (`textOf_sound`): the room and the length
of the chain always add up to the limit.

The visits are looked at for the text only. The walk that leads to parts
turns out to make the same ones.
-/
import MessageCatalog.Proofs.Resolve.Correspondence

namespace MessageCatalog.Resolve

/-- A computation that keeps its visits. -/
structure Traced (α : Type) where
  visits : List Visit
  result : Except FormatError α

namespace Traced

variable {α β : Type}

/-- Runs the second computation if the first one ends well. -/
def andThen (x : Traced α) (f : α → Traced β) : Traced β :=
  match x.result with
  | .ok a => ⟨x.visits ++ (f a).visits, (f a).result⟩
  | .error e => ⟨x.visits, .error e⟩

instance : Resolving Traced where
  pure a := ⟨[], .ok a⟩
  bind := andThen
  stop e := ⟨[], .error e⟩
  note v := ⟨[v], .ok ()⟩

@[simp] theorem pure_eq (a : α) : (pure a : Traced α) = ⟨[], .ok a⟩ := rfl

@[simp] theorem stop_eq (e : FormatError) : (Resolving.stop e : Traced α) = ⟨[], .error e⟩ := rfl

@[simp] theorem note_eq (v : Visit) : (Resolving.note v : Traced Unit) = ⟨[v], .ok ()⟩ := rfl

@[simp] theorem ok_bind (visits : List Visit) (a : α) (f : α → Traced β) :
    ((⟨visits, .ok a⟩ : Traced α) >>= f) = ⟨visits ++ (f a).visits, (f a).result⟩ := rfl

@[simp] theorem error_bind (visits : List Visit) (e : FormatError) (f : α → Traced β) :
    ((⟨visits, .error e⟩ : Traced α) >>= f) = ⟨visits, .error e⟩ := rfl

theorem id_map (x : Traced α) : id <$> x = x := by
  obtain ⟨visits, result⟩ := x
  cases result with
  | ok a => exact congrArg (Traced.mk · (.ok a)) (List.append_nil visits)
  | error e => rfl

theorem bind_assoc {γ : Type} (x : Traced α) (f : α → Traced β) (g : β → Traced γ) :
    x >>= f >>= g = x >>= fun a => f a >>= g := by
  obtain ⟨visits, result⟩ := x
  cases result with
  | error e => rfl
  | ok a =>
      rw [ok_bind, ok_bind]
      generalize f a = y
      obtain ⟨visits', result'⟩ := y
      cases result' with
      | ok b => simp
      | error e => rfl

instance : LawfulMonad Traced := LawfulMonad.mk' Traced id_map (fun _ _ => rfl) bind_assoc

@[simp] theorem visits_map (f : α → β) (x : Traced α) : (f <$> x).visits = x.visits := by
  obtain ⟨visits, result⟩ := x
  rw [← bind_pure_comp]
  cases result with
  | ok a => exact List.append_nil visits
  | error e => rfl

@[simp] theorem result_map (f : α → β) (x : Traced α) : (f <$> x).result = f <$> x.result := by
  obtain ⟨visits, result⟩ := x
  cases result with
  | ok a => rfl
  | error e => rfl

end Traced

-- ================================================== forgetting the record

/-- A traced computation and its result. -/
def forgetting : Correspondence Traced (Except FormatError) where
  rel x y := x.result = y
  rel_pure _ := rfl
  rel_bind {_ _ x y f g} hxy hfg := by
    obtain ⟨visits, result⟩ := x
    subst hxy
    cases result with
    | ok a => exact hfg a
    | error e => rfl

variable {guarded : Guard} {α : Type}

/-- A reference has the same result with and without a record if its
message has. -/
theorem result_referring {missing : List String → α} {chain : Chain} {t : Target}
    {inner : Option (Chain → Context → Message → Traced α)}
    {inner' : Option (Chain → Context → Message → Except FormatError α)}
    (h : Option.Rel (fun f g => ∀ m, (f (chain ++ [t.frame]) t.context m).result
      = g (chain ++ [t.frame]) t.context m) inner inner') :
    (referring missing guarded chain inner t).result
      = referring missing guarded chain inner' t := by
  cases hm : t.message with
  | none =>
      rw [referring_missing hm, referring_missing hm]
      rfl
  | some m =>
      cases hg : guarded chain t.frame with
      | true =>
          rw [referring_cyclic hm hg, referring_cyclic hm hg]
          rfl
      | false =>
          cases h with
          | none =>
              rw [referring_tooDeep hm hg, referring_tooDeep hm hg]
              rfl
          | some hbody =>
              rw [referring_entered hm hg, referring_entered hm hg]
              exact hbody m

theorem result_textOf (room : Nat) (chain : Chain) (t : Target) :
    (textOf guarded room chain t : Traced String).result = textOf guarded room chain t := by
  induction room generalizing chain t with
  | zero => exact result_referring .none
  | succ room ih =>
      refine result_referring (.some fun m => ?_)
      exact forgetting.messageText_rel (.refl _) (fun _ _ _ => ih _ _) m

theorem result_partsOf (room : Nat) (chain : Chain) (t : Target) :
    (partsOf guarded room chain t : Traced (List Part)).result
      = partsOf guarded room chain t := by
  induction room generalizing chain t with
  | zero => exact result_referring .none
  | succ room ih =>
      refine result_referring (.some fun m => ?_)
      exact forgetting.messageParts_rel (.refl _) (fun _ _ _ => result_textOf _ _ _)
        (fun _ _ _ => ih _ _) m

/-- The record changes nothing about the text. -/
theorem result_textFrom (ctx : Context) (m : Message) :
    (textFrom guarded ctx m : Traced String).result = textFrom guarded ctx m :=
  forgetting.messageText_rel (.refl ctx) (fun _ _ _ => result_textOf _ _ _) m

/-- The record changes nothing about the parts. -/
theorem result_partsFrom (ctx : Context) (m : Message) :
    (partsFrom guarded ctx m : Traced (List Part)).result = partsFrom guarded ctx m :=
  forgetting.messageParts_rel (.refl ctx) (fun _ _ _ => result_textOf _ _ _)
    (fun _ _ _ => result_partsOf _ _ _) m

/-- A reference is itself the first visit on the way to its text. -/
theorem visited_self (room : Nat) (chain : Chain) (t : Target) :
    ∃ v ∈ (textOf guarded room chain t : Traced String).visits, v.target = t := by
  cases hm : t.message with
  | none =>
      rw [textOf_missing hm]
      exact ⟨_, List.mem_cons_self .., rfl⟩
  | some m =>
      cases hg : guarded chain t.frame with
      | true =>
          rw [textOf_cyclic hm hg]
          exact ⟨_, List.mem_cons_self .., rfl⟩
      | false =>
          cases room with
          | zero =>
              rw [textOf_tooDeep hm hg]
              exact ⟨_, List.mem_cons_self .., rfl⟩
          | succ room =>
              rw [textOf_entered hm hg]
              exact ⟨_, List.mem_cons_self .., rfl⟩

-- ===================================================== errors explained

/-- The error that a visit ends its run with, if it is refused. -/
def Visit.refusal (v : Visit) : Option FormatError :=
  match v.outcome with
  | .cyclic => some (.cyclicReference ((v.chain ++ [v.target.frame]).map Frame.key))
  | .tooDeep => some (.maxDepthExceeded v.target.context.maxDepth)
  | .missing | .entered => none

/-- A computation fails with the error of a visit, and a refused visit
makes it fail. -/
def Traced.Reports (x : Traced α) : Prop :=
  ∀ e, x.result = .error e ↔ ∃ v ∈ x.visits, v.refusal = some e

/-- Reporting is kept by sequencing: behind a computation that ends well
no visit was refused. -/
def reporting : Correspondence Traced Traced where
  rel x _ := x.Reports
  rel_pure _ := by simp [Traced.Reports]
  rel_bind {_ _ x y f g} hx hf := by
    intro e
    obtain ⟨visits, result⟩ := x
    cases result with
    | error e' =>
        rw [Traced.error_bind]
        simpa using hx e
    | ok a =>
        have hnone : ¬∃ v ∈ visits, v.refusal = some e := fun h => nomatch (hx e).mpr h
        simp only [Traced.ok_bind, List.mem_append, or_and_right, exists_or]
        rw [hf a e]
        exact ⟨Or.inr, fun hor => hor.resolve_left hnone⟩

theorem reports_referring {missing : List String → α} {chain : Chain} {t : Target}
    {inner : Option (Chain → Context → Message → Traced α)}
    (h : ∀ body ∈ inner, ∀ m, (body (chain ++ [t.frame]) t.context m).Reports) :
    (referring missing guarded chain inner t).Reports := by
  intro e
  cases hm : t.message with
  | none =>
      rw [referring_missing hm]
      simp [Visit.refusal]
  | some m =>
      cases hg : guarded chain t.frame with
      | true =>
          rw [referring_cyclic hm hg]
          simp [Visit.refusal]
      | false =>
          cases inner with
          | none =>
              rw [referring_tooDeep hm hg]
              simp [Visit.refusal]
          | some body =>
              rw [referring_entered hm hg, Traced.note_eq, Traced.ok_bind]
              simp only [h body rfl m e]
              simp [Visit.refusal]

theorem reports_textOf (room : Nat) (chain : Chain) (t : Target) :
    (textOf guarded room chain t : Traced String).Reports := by
  induction room generalizing chain t with
  | zero => exact reports_referring (by simp)
  | succ room ih =>
      refine reports_referring fun body hbody m => ?_
      cases hbody
      exact reporting.messageText_self (fun _ _ _ => ih _ _) m

-- ======================================================= sound visits

/-- What a step into the target of a visit has to come to, in the order in
which it is tested. -/
def Visit.expected (guarded : Guard) (v : Visit) : Outcome :=
  if v.target.message.isNone then .missing
  else if guarded v.chain v.target.frame then .cyclic
  else if v.target.context.maxDepth ≤ v.chain.length then .tooDeep
  else .entered

/-- A target met on the way from an outermost context: the settings are
still the same, and the message is looked up under resource and path. -/
structure Target.Sound (root : Context) (t : Target) : Prop where
  settings : t.context.SameSettings root
  message : t.message = root.messages t.context.resourceId t.path

/-- A chain of messages that were met and found. -/
def SoundChain (root : Context) (chain : Chain) : Prop :=
  ∀ f ∈ chain, f.target.Sound root ∧ f.target.message.isSome

/-- What holds of every visit of a run. -/
structure Visit.Sound (guarded : Guard) (root : Context) (v : Visit) : Prop where
  target : v.target.Sound root
  chain : SoundChain root v.chain
  depth : v.chain.length ≤ root.maxDepth
  outcome : v.outcome = v.expected guarded

variable {root : Context}

/-- What may become of a step into the target of a visit, and what it
takes. -/
inductive Visit.Decided (guarded : Guard) (limit : Nat) (v : Visit) : Prop where
  | missing (outcome : v.outcome = .missing) (nothing : v.target.message = none)
  | cyclic (outcome : v.outcome = .cyclic) (found : v.target.message.isSome)
      (seen : guarded v.chain v.target.frame = true)
  | tooDeep (outcome : v.outcome = .tooDeep) (found : v.target.message.isSome)
      (new : guarded v.chain v.target.frame = false) (full : limit ≤ v.chain.length)
  | entered (outcome : v.outcome = .entered) (found : v.target.message.isSome)
      (new : guarded v.chain v.target.frame = false) (room : v.chain.length < limit)

theorem Visit.Sound.decided {v : Visit} (h : v.Sound guarded root) :
    v.Decided guarded root.maxDepth := by
  have houtcome := h.outcome
  rw [expected, h.target.settings.maxDepth] at houtcome
  split at houtcome
  · rename_i hnone
    exact .missing houtcome (Option.isNone_iff_eq_none.mp hnone)
  · rename_i hsome
    have hfound : v.target.message.isSome :=
      Option.isSome_iff_ne_none.mpr fun hnone => hsome (Option.isNone_iff_eq_none.mpr hnone)
    split at houtcome
    · rename_i hseen
      exact .cyclic houtcome hfound hseen
    · rename_i hnew
      have hnew : guarded v.chain v.target.frame = false := Bool.eq_false_iff.mpr hnew
      split at houtcome
      · rename_i hfull
        exact .tooDeep houtcome hfound hnew hfull
      · rename_i hroom
        exact .entered houtcome hfound hnew (Nat.lt_of_not_le hroom)

/-- A visit that is reported as missing found no message. -/
theorem Visit.Sound.nothing_of_missing {v : Visit} (h : v.Sound guarded root)
    (hv : v.outcome = .missing) : v.target.message = none := by
  cases h.decided with
  | missing _ hnothing => exact hnothing
  | cyclic houtcome => exact nomatch houtcome.symm.trans hv
  | tooDeep houtcome => exact nomatch houtcome.symm.trans hv
  | entered houtcome => exact nomatch houtcome.symm.trans hv

theorem target_sound {c : Context} (h : c.SameSettings root) (resource : Option String)
    (segments : List Value) (overrides : Option (Dictionary Value)) :
    (target c resource segments overrides).Sound root :=
  ⟨h.extend resource overrides, by rw [← h.messages]; rfl⟩

/-- What holds of the messages in a chain and of a target holds of the
chain with that target. -/
theorem forall_push {P : Target → Prop} {chain : Chain} (h : ∀ f ∈ chain, P f.target)
    {t : Target} (ht : P t) : ∀ f ∈ chain ++ [t.frame], P f.target := by
  intro f hf
  rcases List.mem_append.mp hf with hf | hf
  · exact h f hf
  · rw [List.mem_singleton.mp hf]
    exact ht

theorem SoundChain.push {chain : Chain} (h : SoundChain root chain) {t : Target} {m : Message}
    (ht : t.Sound root) (hm : t.message = some m) : SoundChain root (chain ++ [t.frame]) :=
  forall_push (P := fun u => u.Sound root ∧ u.message.isSome) h ⟨ht, Option.isSome_of_mem hm⟩

/-- What all visits have in common is kept by sequencing. -/
def everyVisit (P : Visit → Prop) : Correspondence Traced Traced where
  rel x _ := ∀ v ∈ x.visits, P v
  rel_pure _ := by simp
  rel_bind {_ _ x y f g} hx hf := by
    obtain ⟨visits, result⟩ := x
    cases result with
    | error e => exact hx
    | ok a =>
        intro v hv
        rcases List.mem_append.mp hv with hv | hv
        · exact hx v hv
        · exact hf a v hv

/-- What holds of a reference, whatever becomes of it, and of the visits
within its message holds of all its visits. -/
theorem everyVisit_referring {P : Visit → Prop} {missing : List String → α} {chain : Chain}
    {t : Target} {inner : Option (Chain → Context → Message → Traced α)}
    (hself : ∀ outcome, P ⟨chain, t, outcome⟩)
    (hinner : ∀ body ∈ inner, ∀ m, t.message = some m → guarded chain t.frame = false →
      ∀ v ∈ (body (chain ++ [t.frame]) t.context m).visits, P v) :
    ∀ v ∈ (referring missing guarded chain inner t).visits, P v := by
  intro v hv
  cases hm : t.message with
  | none =>
      rw [referring_missing hm] at hv
      obtain rfl : v = _ := by simpa using hv
      exact hself _
  | some m =>
      cases hg : guarded chain t.frame with
      | true =>
          rw [referring_cyclic hm hg] at hv
          obtain rfl : v = _ := by simpa using hv
          exact hself _
      | false =>
          cases inner with
          | none =>
              rw [referring_tooDeep hm hg] at hv
              obtain rfl : v = _ := by simpa using hv
              exact hself _
          | some body =>
              rw [referring_entered hm hg, Traced.note_eq, Traced.ok_bind] at hv
              rcases List.mem_cons.mp hv with rfl | hv
              · exact hself _
              · exact hinner body rfl m hm hg v hv

/-- The visits of a reference are sound if those within its message are:
`inner` is there exactly if the chain may still grow. -/
theorem sound_referring {missing : List String → α} {chain : Chain} {t : Target}
    {inner : Option (Chain → Context → Message → Traced α)} (ht : t.Sound root)
    (hchain : SoundChain root chain) (hdepth : chain.length ≤ root.maxDepth)
    (hnone : inner = none → root.maxDepth ≤ chain.length)
    (hsome : ∀ body ∈ inner, chain.length < root.maxDepth ∧ ∀ m, t.message = some m →
      ∀ v ∈ (body (chain ++ [t.frame]) t.context m).visits, v.Sound guarded root) :
    ∀ v ∈ (referring missing guarded chain inner t).visits, v.Sound guarded root := by
  intro v hv
  have hmax : t.context.maxDepth = root.maxDepth := ht.settings.maxDepth
  cases hm : t.message with
  | none =>
      rw [referring_missing hm] at hv
      obtain rfl : v = _ := by simpa using hv
      exact ⟨ht, hchain, hdepth, by simp [Visit.expected, hm]⟩
  | some m =>
      cases hg : guarded chain t.frame with
      | true =>
          rw [referring_cyclic hm hg] at hv
          obtain rfl : v = _ := by simpa using hv
          exact ⟨ht, hchain, hdepth, by simp [Visit.expected, hm, hg]⟩
      | false =>
          cases inner with
          | none =>
              rw [referring_tooDeep hm hg] at hv
              obtain rfl : v = _ := by simpa using hv
              have hfull := hnone rfl
              exact ⟨ht, hchain, hdepth, by simp [Visit.expected, hm, hg, hmax, hfull]⟩
          | some body =>
              obtain ⟨hlt, hbody⟩ := hsome body rfl
              rw [referring_entered hm hg, Traced.note_eq, Traced.ok_bind] at hv
              rcases List.mem_cons.mp hv with rfl | hv
              · refine ⟨ht, hchain, hdepth, ?_⟩
                simp [Visit.expected, hm, hg, hmax, Nat.not_le.mpr hlt]
              · exact hbody m hm v hv

/-- Every visit on the way to the text of a reference is sound. The room
that is left and the length of the chain add up to the limit. -/
theorem textOf_sound (room : Nat) (chain : Chain) (t : Target) (ht : t.Sound root)
    (hchain : SoundChain root chain) (hroom : chain.length + room = root.maxDepth) :
    ∀ v ∈ (textOf guarded room chain t : Traced String).visits, v.Sound guarded root := by
  induction room generalizing chain t with
  | zero => exact sound_referring ht hchain (by omega) (fun _ => by omega) (by simp)
  | succ room ih =>
      refine sound_referring ht hchain (by omega) (by simp) fun body hbody => ⟨by omega, ?_⟩
      cases hbody
      intro m hm
      refine (everyVisit _).messageText_self (fun _ _ _ => ?_) m
      refine ih _ _ (target_sound ht.settings ..) (hchain.push ht hm) ?_
      rw [List.length_append, List.length_singleton]
      omega

-- ========================================================= whole runs

/-- The visits on the way to the text of a message. -/
def textVisits (ctx : Context) (m : Message) : List Visit :=
  (textFrom noRepeat ctx m : Traced String).visits

/-- The visits on the way to the parts of a message. -/
def partsVisits (ctx : Context) (m : Message) : List Visit :=
  (partsFrom noRepeat ctx m : Traced (List Part)).visits

theorem textVisits_sound {ctx : Context} {m : Message} :
    ∀ v ∈ textVisits ctx m, v.Sound noRepeat ctx :=
  (everyVisit _).messageText_self
    (fun _ _ _ => textOf_sound _ _ _ (target_sound (.refl ctx) ..) (by simp [SoundChain])
      (by simp)) m

/-- Formatting to text fails exactly with the refusal of one of its
visits. -/
theorem formatText_error_iff {ctx : Context} {m : Message} {e : FormatError} :
    formatText ctx m = .error e ↔ ∃ v ∈ textVisits ctx m, v.refusal = some e := by
  unfold formatText
  rw [← result_textFrom]
  exact reporting.messageText_self (fun _ _ _ => reports_textOf _ _ _) m e

end MessageCatalog.Resolve
