/-
Resolving without looking for cycles.

The plain evaluator enters every message and stops at the limit only.
Whatever formatting gives, the plain evaluator gives too, since a guard
can only refuse (`textOf_unguarded`). The converse is what makes looking
for cycles harmless: a run that would end well is never refused
(`textOf_of_unguarded`).

# Why a repeated message does not end well

Among the rooms in which a message ends well there is a least one. If it
met itself again on the way, it would end well there in less room, since
a message and its repetition cannot be told apart. So a message in its
least room never repeats, nor does one of those around it. The induction
is on the room: at each step into a message it goes on with the least room
for that message, and it carries along that none of the messages in the
chain ends well in so little room (`Waiting`).

# What a repetition has to be

All of this needs that a frame repeats only if the message does. For a
catalog whose ids have no colon and whose names have no point, a frame
tells its message (`Context.Keyed`); and variables that are equal are the
same where no zero has a sign.
-/
import MessageCatalog.Proofs.Catalog
import MessageCatalog.Proofs.Resolve.Cycle

namespace MessageCatalog

namespace Resolve

-- ================================================= guards only refuse

/-- What ends well on the left ends well on the right, in the same way. -/
def preserving : Correspondence (Except FormatError) (Except FormatError) where
  rel x y := ∀ a, x = .ok a → y = .ok a
  rel_pure _ _ h := h
  rel_bind {_ _ x y f g} hxy hfg b hb := by
    cases x with
    | error e => exact nomatch hb
    | ok a =>
        rw [hxy a rfl]
        exact hfg a b hb

variable {guarded : Guard} {α : Type}

/-- A reference that ends well also does without a guard if its message
does. -/
theorem referring_unguarded {missing : List String → α} {chain chain' : Chain} {t u : Target}
    (htu : t.Alike u) {inner inner' : Option (Chain → Context → Message → Except FormatError α)}
    (hinner : ∀ body ∈ inner, ∃ body' ∈ inner', ∀ m a,
      body (chain ++ [t.frame]) t.context m = .ok a →
        body' (chain' ++ [u.frame]) u.context m = .ok a)
    {a : α} (h : referring missing guarded chain inner t = .ok a) :
    referring missing unguarded chain' inner' u = .ok a := by
  cases hm : t.message with
  | none =>
      rw [referring_missing hm] at h
      rw [referring_missing (htu.message ▸ hm), ← htu.path]
      exact h
  | some m =>
      cases hg : guarded chain t.frame with
      | true =>
          rw [referring_cyclic hm hg] at h
          exact nomatch h
      | false =>
          cases inner with
          | none =>
              rw [referring_tooDeep hm hg] at h
              exact nomatch h
          | some body =>
              obtain ⟨body', rfl, hbody⟩ := hinner body rfl
              rw [referring_entered hm hg] at h
              rw [referring_entered (htu.message ▸ hm) rfl]
              exact hbody m a h

/-- What a reference gives with some guard it gives without one, in any
greater room, behind any chain and for any target that is alike. -/
theorem textOf_unguarded {room room' : Nat} (hroom : room ≤ room') {chain chain' : Chain}
    {t u : Target} (htu : t.Alike u) {s : String}
    (h : (textOf guarded room chain t : Except FormatError String) = .ok s) :
    (textOf unguarded room' chain' u : Except FormatError String) = .ok s := by
  induction room generalizing room' chain chain' t u s with
  | zero =>
      cases room' with
      | zero => exact referring_unguarded htu (by simp) h
      | succ room' => exact referring_unguarded htu (by simp) h
  | succ room ih =>
      obtain ⟨room', rfl⟩ : ∃ n, room' = n + 1 := ⟨room' - 1, by omega⟩
      refine referring_unguarded htu (fun body hbody => ⟨_, rfl, fun m a => ?_⟩) h
      cases hbody
      refine preserving.messageText_rel htu.context.toAgree (fun _ _ _ a => ?_) m a
      exact ih (by omega) (target_alike htu.context ..)

theorem partsOf_unguarded {room room' : Nat} (hroom : room ≤ room') {chain chain' : Chain}
    {t u : Target} (htu : t.Alike u) {ps : List Part}
    (h : (partsOf guarded room chain t : Except FormatError (List Part)) = .ok ps) :
    (partsOf unguarded room' chain' u : Except FormatError (List Part)) = .ok ps := by
  induction room generalizing room' chain chain' t u ps with
  | zero =>
      cases room' with
      | zero => exact referring_unguarded htu (by simp) h
      | succ room' => exact referring_unguarded htu (by simp) h
  | succ room ih =>
      obtain ⟨room', rfl⟩ : ∃ n, room' = n + 1 := ⟨room' - 1, by omega⟩
      refine referring_unguarded htu (fun body hbody => ⟨_, rfl, fun m a => ?_⟩) h
      cases hbody
      refine preserving.messageParts_rel htu.context.toAgree (fun _ _ _ a => ?_)
        (fun _ _ _ a => ?_) m a
      · exact textOf_unguarded (by omega) (target_alike htu.context ..)
      · exact ih (by omega) (target_alike htu.context ..)

-- ================================================== what repeats is alike

end Resolve

/-- Messages are found under keys that can be taken apart: the resource
is named and has no colon, the path has segments without points. -/
structure Context.Keyed (ctx : Context) : Prop where
  resource : ∀ {resource path}, (ctx.messages resource path).isSome →
    ∃ id, resource = some id ∧ ':' ∉ id.toList
  path : ∀ {resource path}, (ctx.messages resource path).isSome →
    path ≠ [] ∧ ∀ name ∈ path, '.' ∉ name.toList

namespace Resolve

variable {root : Context}

/-- A target met on the way whose message was found and sees no zero with
a sign. -/
structure Target.Clear (root : Context) (t : Target) : Prop extends t.Sound root where
  found : t.message.isSome
  unsigned : Value.AllInPairs Value.Unsigned t.visible

/-- A message that was found sees no zero with a sign. -/
def Visit.Unsigned (v : Visit) : Prop :=
  v.target.message.isSome → Value.AllInPairs Value.Unsigned v.target.visible

theorem Target.Clear.separable {t : Target} (ht : t.Clear root) (hkeyed : root.Keyed) :
    t.Separable ∧ ∃ id, t.context.resourceId = some id := by
  have hfound := ht.found
  rw [ht.message] at hfound
  obtain ⟨id, hid, hcolon⟩ := hkeyed.resource hfound
  obtain ⟨hpath, hsegments⟩ := hkeyed.path hfound
  refine ⟨⟨?_, hpath, hsegments⟩, id, hid⟩
  rw [hid]
  exact hcolon

/-- A target whose frame repeats one in the chain is alike. -/
theorem alike_of_same (hkeyed : root.Keyed) {f : Frame} {t : Target} (hf : f.target.Clear root)
    (ht : t.Clear root) (h : f.same t.frame = true) : t.Alike f.target := by
  obtain ⟨hkey, hsame⟩ := same_iff.mp h
  obtain ⟨hfsep, id, hid⟩ := hf.separable hkeyed
  obtain ⟨htsep, id', hid'⟩ := ht.separable hkeyed
  obtain ⟨hgetD, hpath⟩ := Target.eq_of_key_eq hfsep htsep hkey
  have hresource : t.context.resourceId = f.target.context.resourceId := by
    rw [hid, hid'] at hgetD ⊢
    exact congrArg some hgetD.symm
  have hvisible : f.target.visible = t.visible :=
    Value.eq_of_samePairs hsame hf.unsigned ht.unsigned
  refine ⟨hpath.symm, ?_, ht.settings.alike hf.settings hresource hvisible.symm⟩
  rw [ht.message, hf.message, hresource, hpath]

-- ================================================= runs that end well

/-- What ends well on the left ends well on the right, in the same way,
as long as no zero with a sign is met there. -/
def completing : Correspondence (Except FormatError) Traced where
  rel x y := (∀ v ∈ y.visits, v.Unsigned) → ∀ a, x = .ok a → y.result = .ok a
  rel_pure a _ b h := by
    cases h
    rfl
  rel_bind {_ _ x y f g} hxy hfg hvisits b hb := by
    obtain ⟨visits, result⟩ := y
    cases x with
    | error e => exact nomatch hb
    | ok a =>
        cases result with
        | error e => exact nomatch hxy hvisits a rfl
        | ok a' =>
            have hfirst : ∀ v ∈ visits, v.Unsigned := fun v hv =>
              hvisits v (List.mem_append_left _ hv)
            have hsecond : ∀ v ∈ (g a').visits, v.Unsigned := fun v hv =>
              hvisits v (List.mem_append_right _ hv)
            cases hxy hfirst a rfl
            exact hfg a hsecond b hb

/-- A target ends well in a room if its text can be told there without a
guard. -/
def EndsWell (room : Nat) (t : Target) : Prop :=
  ∃ s, (textOf unguarded room [] t : Except FormatError String) = .ok s

theorem Target.Alike.refl (t : Target) : t.Alike t := ⟨rfl, rfl, .refl t.context⟩

/-- The messages in a chain do not end well in a room, nor in any smaller
one. -/
def Waiting (root : Context) (k : Nat) (chain : Chain) : Prop :=
  ∀ f ∈ chain, f.target.Clear root ∧ ∀ j ≤ k, ¬ EndsWell j f.target

namespace Waiting

variable {k : Nat} {chain : Chain} {t : Target}

theorem mono (h : Waiting root k chain) {j : Nat} (hj : j ≤ k) : Waiting root j chain :=
  fun f hf => ⟨(h f hf).1, fun i hi => (h f hf).2 i (by omega)⟩

/-- The message of a target in its least room joins those that wait. -/
theorem push (h : Waiting root (k + 1) chain) (ht : t.Clear root)
    (hleast : ¬ ∃ j, j < k + 1 ∧ EndsWell j t) : Waiting root k (chain ++ [t.frame]) := by
  refine forall_push (P := fun u => u.Clear root ∧ ∀ j ≤ k, ¬ EndsWell j u)
    (h.mono (by omega)) ⟨ht, fun j hj hwell => ?_⟩
  exact hleast ⟨j, by omega, hwell⟩

/-- What ends well is told apart from the messages that wait for it. -/
theorem no_repeat (h : Waiting root k chain) (hkeyed : root.Keyed) (ht : t.Clear root)
    {plain : Chain} {s : String}
    (hwell : (textOf unguarded k plain t : Except FormatError String) = .ok s) :
    noRepeat chain t.frame = false := by
  refine Bool.eq_false_iff.mpr fun hrepeat => ?_
  obtain ⟨f, hf, hsame⟩ := List.any_eq_true.mp hrepeat
  have halike : t.Alike f.target := alike_of_same hkeyed (h f hf).1 ht hsame
  exact (h f hf).2 k (Nat.le_refl k) ⟨s, textOf_unguarded (Nat.le_refl k) halike hwell⟩

end Waiting

/-- What ends well without a guard is not refused behind messages that do
not end well in so little room. The induction is on that room: if the
target ends well in less, it goes on with less; if not, the target waits
for its own message, which has less room. -/
theorem textOf_of_unguarded (hkeyed : root.Keyed) {k room : Nat} (hroom : k ≤ room)
    {chain plain : Chain} {t : Target} (ht : t.Sound root) (hchain : Waiting root k chain)
    {s : String} (h : (textOf unguarded k plain t : Except FormatError String) = .ok s)
    (hvisits : ∀ v ∈ (textOf noRepeat room chain t : Traced String).visits, v.Unsigned) :
    (textOf noRepeat room chain t : Traced String).result = .ok s := by
  induction k using Nat.strongRecOn generalizing room chain plain t s with
  | _ k ih =>
  by_cases hless : ∃ j, j < k ∧ EndsWell j t
  · obtain ⟨j, hj, s', hs'⟩ := hless
    have hk : (textOf unguarded k plain t : Except FormatError String) = .ok s' :=
      textOf_unguarded (by omega) (.refl t) hs'
    cases h.symm.trans hk
    exact ih j hj (by omega) ht (hchain.mono (by omega)) hs' hvisits
  · cases hm : t.message with
    | none =>
        rw [textOf_missing hm] at h
        rw [textOf_missing hm, Traced.note_eq, Traced.ok_bind]
        exact h
    | some m =>
        cases k with
        | zero =>
            rw [textOf_tooDeep hm rfl] at h
            exact nomatch h
        | succ k =>
            obtain ⟨room, rfl⟩ : ∃ n, room = n + 1 := ⟨room - 1, by omega⟩
            have hclear : t.Clear root := by
              obtain ⟨v, hv, rfl⟩ := @visited_self noRepeat (room + 1) chain t
              have hfound : v.target.message.isSome := Option.isSome_of_mem hm
              exact ⟨ht, hfound, hvisits v hv hfound⟩
            have hg : noRepeat chain t.frame = false := hchain.no_repeat hkeyed hclear h
            rw [textOf_entered hm hg, Traced.note_eq, Traced.ok_bind] at hvisits ⊢
            rw [textOf_entered hm rfl] at h
            have hbody := fun v hv => hvisits v (List.mem_cons_of_mem _ hv)
            refine completing.messageText_rel (.refl _) (fun _ _ _ hvisits' a ha => ?_) m hbody s h
            exact ih k (by omega) (by omega) (target_sound ht.settings ..)
              (hchain.push hclear hless) ha hvisits'

-- ========================================================= whole runs

/-- The text of a message by the plain evaluator. -/
def plainText (ctx : Context) (m : Message) : Except FormatError String :=
  textFrom unguarded ctx m

/-- The parts of a message by the plain evaluator. -/
def plainParts (ctx : Context) (m : Message) : Except FormatError (List Part) :=
  partsFrom unguarded ctx m

variable {ctx : Context} {m : Message}

theorem plainText_of_formatText {s : String} (h : formatText ctx m = .ok s) :
    plainText ctx m = .ok s :=
  preserving.messageText_rel (.refl ctx)
    (fun _ _ _ _ => textOf_unguarded (Nat.le_refl _) (.refl _)) m s h

theorem plainParts_of_formatParts {ps : List Part} (h : formatParts ctx m = .ok ps) :
    plainParts ctx m = .ok ps :=
  preserving.messageParts_rel (.refl ctx)
    (fun _ _ _ _ => textOf_unguarded (Nat.le_refl _) (.refl _))
    (fun _ _ _ _ => partsOf_unguarded (Nat.le_refl _) (.refl _)) m ps h

/-- A text of the plain evaluator is the text. -/
theorem formatText_of_plainText (hkeyed : ctx.Keyed)
    (hvisits : ∀ v ∈ textVisits ctx m, v.Unsigned) {s : String} (h : plainText ctx m = .ok s) :
    formatText ctx m = .ok s := by
  unfold formatText
  rw [← result_textFrom]
  refine completing.messageText_rel (.refl ctx) (fun _ _ _ hvisits' a ha => ?_) m hvisits s h
  exact textOf_of_unguarded hkeyed (Nat.le_refl _) (target_sound (.refl ctx) ..)
    (by simp [Waiting]) ha hvisits'

/-- Parts of the plain evaluator are the parts: where it gives parts it
gives a text, so there are parts, and these it would give. -/
theorem formatParts_of_plainParts (hkeyed : ctx.Keyed)
    (hvisits : ∀ v ∈ textVisits ctx m, v.Unsigned) {ps : List Part}
    (h : plainParts ctx m = .ok ps) : formatParts ctx m = .ok ps := by
  obtain ⟨s, hs⟩ : ∃ s, plainText ctx m = .ok s := by
    unfold plainParts at h
    unfold plainText
    rw [partsFrom_eq] at h
    rw [textFrom_eq]
    cases hpieces : (piecesFrom unguarded ctx m : Except FormatError (List Piece)) with
    | error e =>
        rw [hpieces] at h
        exact nomatch h
    | ok pieces => exact ⟨_, rfl⟩
  have htext := formatText_of_plainText hkeyed hvisits hs
  cases hparts : formatParts ctx m with
  | error e => exact nomatch htext.symm.trans (formatParts_error_iff.mp hparts)
  | ok ps' => exact (plainParts_of_formatParts hparts).symm.trans h

end Resolve

-- ============================================================ catalogs

namespace Catalog

open Resolve

/-- The text of a message of a catalog by the plain evaluator. -/
def plainFormat (c : Catalog) (id : String) (path : List String) (bindings : Dictionary Value) :
    Except FormatError String := do
  let m ← c.requireMessage id path
  plainText (c.context id (.ofDictionary bindings)) m

/-- The parts of a message of a catalog by the plain evaluator. -/
def plainFormatToParts (c : Catalog) (id : String) (path : List String)
    (bindings : Dictionary Value) : Except FormatError (List Part) := do
  let m ← c.requireMessage id path
  plainParts (c.context id (.ofDictionary bindings)) m

/-- The visits on the way to the text of a message of a catalog. -/
def visits (c : Catalog) (id : String) (path : List String) (bindings : Dictionary Value) :
    List Visit :=
  match c.requireMessage id path with
  | .ok m => textVisits (c.context id (.ofDictionary bindings)) m
  | .error _ => []

theorem keyed_context {c : Catalog} (hids : ∀ id ∈ c.ids, ':' ∉ id.toList)
    (hnames : c.AllNames fun name => '.' ∉ name.toList) (id : String) (scope : Scope) :
    (c.context id scope).Keyed where
  resource h := by
    obtain ⟨m, hm⟩ := Option.isSome_iff_exists.mp h
    obtain ⟨⟨id, hid, hresource⟩, -⟩ := lookup_eq_some hm hnames
    exact ⟨id, hresource, hids id hid⟩
  path h := by
    obtain ⟨m, hm⟩ := Option.isSome_iff_exists.mp h
    exact (lookup_eq_some hm hnames).2

/-- Looking for cycles refuses nothing that would end well: where ids have
no colon, names of entries no point and zeros no sign, the plain evaluator
gives the same texts and the same parts. -/
theorem plain_ok_iff (c : Catalog) (id : String) (path : List String) (bindings : Dictionary Value)
    (hids : ∀ id ∈ c.ids, ':' ∉ id.toList) (hnames : c.AllNames fun name => '.' ∉ name.toList)
    (hzero : ∀ v ∈ c.visits id path bindings, v.Unsigned) :
    (∀ s, c.plainFormat id path bindings = .ok s ↔ c.format id path bindings = .ok s) ∧
    (∀ ps, c.plainFormatToParts id path bindings = .ok ps ↔
      c.formatToParts id path bindings = .ok ps) := by
  have hkeyed := keyed_context hids hnames id (.ofDictionary bindings)
  unfold visits at hzero
  unfold plainFormat format plainFormatToParts formatToParts
  cases hm : c.requireMessage id path with
  | error e => exact ⟨fun _ => ⟨nofun, nofun⟩, fun _ => ⟨nofun, nofun⟩⟩
  | ok m =>
      rw [hm] at hzero
      exact ⟨fun _ => ⟨formatText_of_plainText hkeyed hzero, plainText_of_formatText⟩,
        fun _ => ⟨formatParts_of_plainParts hkeyed hzero, plainParts_of_formatParts⟩⟩

/-- A catalog of two messages, one of which refers to the other. -/
def greetings : Catalog :=
  { empty with
    resources := [("res", ⟨"res", "en",
      [("hello", .message (reference ["name"])),
        ("name", .message (.pattern [.variable [.literal (.string "n")]]))]⟩)] }

theorem plain_ok_iff_greetings :
    greetings.plainFormat "res" ["hello"] [("n", .string "Ann")] = .ok "Ann" ∧
      greetings.format "res" ["hello"] [("n", .string "Ann")] = .ok "Ann" := by
  have hzero : ∀ v ∈ greetings.visits "res" ["hello"] [("n", .string "Ann")], v.Unsigned := by
    intro v hv
    have hvisible : v.target.visible = [("n", .string "Ann")] := by
      rw [List.mem_singleton.mp hv]
      rfl
    intro _
    rw [hvisible]
    exact ⟨trivial, trivial⟩
  have hids : ∀ id ∈ greetings.ids, ':' ∉ id.toList := by decide +kernel
  have hnames : greetings.AllNames fun name => '.' ∉ name.toList := by
    intro r hr
    rw [List.mem_singleton.mp hr]
    exact ⟨by decide +kernel, trivial, by decide +kernel, trivial, trivial⟩
  have hiff :=
    (plain_ok_iff greetings "res" ["hello"] [("n", .string "Ann")] hids hnames hzero).1 "Ann"
  exact ⟨hiff.mpr rfl, rfl⟩

end Catalog

end MessageCatalog
