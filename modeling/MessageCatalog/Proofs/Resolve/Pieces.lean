/-
What text and parts have in common.

Text and parts come from two walks. Both are readings of a third one,
which keeps what each of them gives up: the borders between messages,
which the text loses, and the paths of missing messages, which the parts
lose. `Piece` is the fragment that this walk leaves behind.

# The two readings

Within a message the readings follow element by element from the
readings of its references (`patternText_eq`, `patternParts_eq`). Since
whatever is resolved to a value takes the text of references on all three
walks, the references are the only place where they part, and there an
induction on the room relates them (`textOf_eq`, `partsOf_eq`).

The computation is left open except that stopping has to stop
(`LawfulResolving`). So the readings relate more than results: the two
walks meet the same references in the same order and end with the same
error (`partsVisits_eq`), and what is missing in the pieces was looked up
on the way, in the same order, and not found (`missing_sublist`).
-/
import MessageCatalog.Proofs.Resolve.Trace

namespace MessageCatalog.Resolve

-- ============================================================== pieces

/-- A fragment of a formatted message that tells a missing message from
an empty one. -/
inductive Piece where
  | literal (l : Literal)
  | dynamic (v : Value)
  | message (pieces : List Piece)
  /-- A reference that found no message under its path. -/
  | missing (path : List String)

namespace Piece

instance : Inhabited Piece := ⟨.message []⟩

mutual

/-- The text of a piece; a missing message shows its path. -/
def text : Piece → String
  | .literal l => l.text
  | .dynamic v => v.textOrEmpty
  | .message pieces => textOfAll pieces
  | .missing path => placeholder path

/-- The text of pieces, one after the other. -/
def textOfAll : List Piece → String
  | [] => ""
  | p :: rest => text p ++ textOfAll rest

end

mutual

/-- The part of a piece; a missing message leaves no parts. -/
def part : Piece → Part
  | .literal l => .literal l
  | .dynamic v => .dynamic v
  | .message pieces => .message (parts pieces)
  | .missing _ => .message []

/-- The parts of pieces, in order. -/
def parts : List Piece → List Part
  | [] => []
  | p :: rest => part p :: parts rest

end

mutual

/-- Whether no message is missing in a piece, at any depth. -/
def found : Piece → Bool
  | .literal _ | .dynamic _ => true
  | .message pieces => allFound pieces
  | .missing _ => false

/-- Whether no message is missing in pieces, at any depth. -/
def allFound : List Piece → Bool
  | [] => true
  | p :: rest => found p && allFound rest

end

mutual

/-- The paths of the messages that are missing in a piece, in order. -/
def missingPaths : Piece → List (List String)
  | .literal _ | .dynamic _ => []
  | .message pieces => allMissingPaths pieces
  | .missing path => [path]

/-- The paths of the messages that are missing in pieces, in order. -/
def allMissingPaths : List Piece → List (List String)
  | [] => []
  | p :: rest => missingPaths p ++ allMissingPaths rest

end

mutual

/-- The text of a piece is that of its part unless a message is missing. -/
theorem text_eq_of_found : ∀ p : Piece, p.found = true → p.text = p.part.text
  | .literal _, _ => rfl
  | .dynamic _, _ => rfl
  | .message pieces, h => by
      rw [text, part, Part.text]
      exact textOfAll_eq_of_found pieces h

theorem textOfAll_eq_of_found :
    ∀ ps : List Piece, allFound ps = true → textOfAll ps = Part.textOfAll (parts ps)
  | [], _ => rfl
  | p :: rest, h => by
      obtain ⟨hp, hrest⟩ := Bool.and_eq_true_iff.mp h
      rw [textOfAll, parts, Part.textOfAll, text_eq_of_found p hp,
        textOfAll_eq_of_found rest hrest]

end

mutual

theorem found_of_missingPaths : ∀ p : Piece, p.missingPaths = [] → p.found = true
  | .literal _, _ => rfl
  | .dynamic _, _ => rfl
  | .message pieces, h => allFound_of_missingPaths pieces h

/-- Nothing is missing where no path is. -/
theorem allFound_of_missingPaths : ∀ ps : List Piece, allMissingPaths ps = [] → allFound ps = true
  | [], _ => rfl
  | p :: rest, h => by
      obtain ⟨hp, hrest⟩ := List.append_eq_nil_iff.mp h
      rw [allFound, found_of_missingPaths p hp, allFound_of_missingPaths rest hrest]
      rfl

end

end Piece

-- ====================================================== the third walk

section Message

variable {μ : Type → Type} [Monad μ]

/-- The piece that an element leaves behind, where `referPiece` gives the
piece of references. -/
def piece (refer : Target → μ String) (referPiece : Target → μ Piece) (ctx : Context) :
    Element → μ Piece
  | .literal l => return .literal l
  | .message resource path none => do
    let segments ← values refer ctx path
    referPiece (target ctx resource segments none)
  | .message resource path (some overrides) => do
    let segments ← values refer ctx path
    let overrides ← bindings refer ctx overrides
    referPiece (target ctx resource segments (some overrides))
  | e => do
    let v ← value refer ctx e
    return .dynamic v

/-- The pieces of a pattern. -/
def patternPieces (refer : Target → μ String) (referPiece : Target → μ Piece) (ctx : Context) :
    Pattern → μ (List Piece)
  | [] => return []
  | e :: rest => do
    let p ← piece refer referPiece ctx e
    let ps ← patternPieces refer referPiece ctx rest
    return p :: ps

/-- The pieces of a message. -/
def messagePieces (refer : Target → μ String) (referPiece : Target → μ Piece) (ctx : Context)
    (m : Message) : μ (List Piece) := do
  let p ← pattern refer ctx m
  patternPieces refer referPiece ctx p

end Message

section References

variable {μ : Type → Type} [Resolving μ]

/-- The piece of a reference met behind a chain, with at most `room`
further references inside each other. -/
def pieceOf (guarded : Guard) : (room : Nat) → Chain → Target → μ Piece
  | 0, chain => referring .missing guarded chain none
  | room + 1, chain =>
    referring .missing guarded chain (some fun longer ctx m => do
      let pieces ← messagePieces (textOf guarded room longer) (pieceOf guarded room longer) ctx m
      return .message pieces)

/-- The pieces of a message behind the empty chain. -/
def piecesFrom (guarded : Guard) (ctx : Context) (m : Message) : μ (List Piece) :=
  messagePieces (textOf guarded ctx.maxDepth []) (pieceOf guarded ctx.maxDepth []) ctx m

end References

-- ==================================================== within a message

/-- Stopping stops: nothing behind it takes place. -/
class LawfulResolving (μ : Type → Type) [Resolving μ] : Prop extends LawfulMonad μ where
  stop_bind : ∀ {α β : Type} (e : FormatError) (f : α → μ β),
    (Resolving.stop e >>= f) = Resolving.stop e

instance : LawfulResolving (Except FormatError) := ⟨fun _ _ => rfl⟩

instance : LawfulResolving Traced := ⟨fun _ _ => rfl⟩

section Readings

variable {μ : Type → Type} [Monad μ] [LawfulMonad μ]
variable {refer : Target → μ String} {referPiece : Target → μ Piece}
variable {referParts : Target → μ (List Part)}

theorem value_text_eq (h : ∀ t, refer t = Piece.text <$> referPiece t) (ctx : Context)
    (e : Element) :
    Value.textOrEmpty <$> value refer ctx e = Piece.text <$> piece refer referPiece ctx e := by
  rcases e with l | path | ⟨name, args, options⟩ | ⟨resource, path, _ | overrides⟩
  · have hl : (Value.ofLiteral l).textOrEmpty = l.text := by cases l <;> rfl
    simp [value, piece, Piece.text, hl]
  · simp [value, piece, Piece.text]
  · simp [value, piece, Piece.text]
  · simp [value, piece, h, Value.textOrEmpty, Value.text]
  · simp [value, piece, h, Value.textOrEmpty, Value.text]

theorem part_eq (h : ∀ t, Part.message <$> referParts t = Piece.part <$> referPiece t)
    (ctx : Context) (e : Element) :
    part refer referParts ctx e = Piece.part <$> piece refer referPiece ctx e := by
  rcases e with l | path | ⟨name, args, options⟩ | ⟨resource, path, _ | overrides⟩
  · simp [part, piece, Piece.part]
  · simp [part, piece, Piece.part]
  · simp [part, piece, Piece.part]
  · simp [part, piece, ← h]
  · simp [part, piece, ← h]

theorem patternText_eq (h : ∀ t, refer t = Piece.text <$> referPiece t) (ctx : Context)
    (p : Pattern) :
    patternText refer ctx p = Piece.textOfAll <$> patternPieces refer referPiece ctx p := by
  induction p with
  | nil => simp [patternText, patternPieces, Piece.textOfAll]
  | cons e rest ih =>
      have hhead := value_text_eq h ctx e
      calc patternText refer ctx (e :: rest)
          = (do let s ← Value.textOrEmpty <$> value refer ctx e
                let text ← patternText refer ctx rest
                return s ++ text) := by simp [patternText]
        _ = (do let s ← Piece.text <$> piece refer referPiece ctx e
                let text ← Piece.textOfAll <$> patternPieces refer referPiece ctx rest
                return s ++ text) := by rw [hhead, ih]
        _ = Piece.textOfAll <$> patternPieces refer referPiece ctx (e :: rest) := by
            simp [patternPieces, Piece.textOfAll]

theorem patternParts_eq (h : ∀ t, Part.message <$> referParts t = Piece.part <$> referPiece t)
    (ctx : Context) (p : Pattern) :
    patternParts refer referParts ctx p
      = Piece.parts <$> patternPieces refer referPiece ctx p := by
  induction p with
  | nil => simp [patternParts, patternPieces, Piece.parts]
  | cons e rest ih =>
      rw [patternParts, patternPieces, part_eq h, ih]
      simp [Piece.parts]

theorem messageText_eq (h : ∀ t, refer t = Piece.text <$> referPiece t) (ctx : Context)
    (m : Message) :
    messageText refer ctx m = Piece.textOfAll <$> messagePieces refer referPiece ctx m := by
  unfold messageText messagePieces
  simp [patternText_eq h]

theorem messageParts_eq (h : ∀ t, Part.message <$> referParts t = Piece.part <$> referPiece t)
    (ctx : Context) (m : Message) :
    messageParts refer referParts ctx m
      = Piece.parts <$> messagePieces refer referPiece ctx m := by
  unfold messageParts messagePieces
  simp [patternParts_eq h]

end Readings

-- ========================================================== references

section References

variable {μ : Type → Type} [Resolving μ] [LawfulResolving μ]
variable {guarded : Guard} {α β γ : Type}

theorem map_stop (f : α → β) (e : FormatError) :
    f <$> (Resolving.stop e : μ α) = Resolving.stop e := by
  rw [← bind_pure_comp, LawfulResolving.stop_bind]

/-- Two readings agree on a reference if they agree on what is shown for a
missing message and on the message itself: nothing else that a reference
can come to depends on what is read. -/
theorem map_referring_eq (f : α → γ) (g : β → γ) {missing : List String → α}
    {missing' : List String → β} {chain : Chain} {t : Target}
    {inner : Option (Chain → Context → Message → μ α)}
    {inner' : Option (Chain → Context → Message → μ β)}
    (hmissing : ∀ path, f (missing path) = g (missing' path))
    (hinner : Option.Rel (fun body body' => ∀ m,
      f <$> body (chain ++ [t.frame]) t.context m
        = g <$> body' (chain ++ [t.frame]) t.context m) inner inner') :
    f <$> referring missing guarded chain inner t
      = g <$> referring missing' guarded chain inner' t := by
  cases hm : t.message with
  | none =>
      rw [referring_missing hm, referring_missing hm]
      simp [hmissing]
  | some m =>
      cases hg : guarded chain t.frame with
      | true =>
          rw [referring_cyclic hm hg, referring_cyclic hm hg]
          simp [map_stop]
      | false =>
          cases hinner with
          | none =>
              rw [referring_tooDeep hm hg, referring_tooDeep hm hg]
              simp [map_stop]
          | some hbody =>
              rw [referring_entered hm hg, referring_entered hm hg]
              simp [hbody m]

/-- The text of a reference is the text of its piece. -/
theorem textOf_eq (room : Nat) (chain : Chain) (t : Target) :
    (textOf guarded room chain t : μ String) = Piece.text <$> pieceOf guarded room chain t := by
  induction room generalizing chain t with
  | zero =>
      rw [← id_map (textOf guarded 0 chain t)]
      exact map_referring_eq id Piece.text (fun _ => rfl) .none
  | succ room ih =>
      rw [← id_map (textOf guarded (room + 1) chain t)]
      refine map_referring_eq id Piece.text (fun _ => rfl) (.some fun m => ?_)
      rw [id_map, messageText_eq (ih _)]
      simp [Piece.text]

/-- The parts of a reference are those of its piece. -/
theorem partsOf_eq (room : Nat) (chain : Chain) (t : Target) :
    Part.message <$> (partsOf guarded room chain t : μ (List Part))
      = Piece.part <$> pieceOf guarded room chain t := by
  induction room generalizing chain t with
  | zero => exact map_referring_eq Part.message Piece.part (fun _ => rfl) .none
  | succ room ih =>
      refine map_referring_eq Part.message Piece.part (fun _ => rfl) (.some fun m => ?_)
      rw [messageParts_eq (ih _)]
      simp [Piece.part]

theorem textFrom_eq (ctx : Context) (m : Message) :
    (textFrom guarded ctx m : μ String) = Piece.textOfAll <$> piecesFrom guarded ctx m :=
  messageText_eq (textOf_eq _ _) ctx m

theorem partsFrom_eq (ctx : Context) (m : Message) :
    (partsFrom guarded ctx m : μ (List Part)) = Piece.parts <$> piecesFrom guarded ctx m :=
  messageParts_eq (partsOf_eq _ _) ctx m

end References

-- ================================================== forgetting the record

section Forgetting

variable {refer : Target → Traced String} {refer' : Target → Except FormatError String}
variable {referPiece : Target → Traced Piece} {referPiece' : Target → Except FormatError Piece}

theorem result_piece (h : ∀ t, (refer t).result = refer' t)
    (hpiece : ∀ t, (referPiece t).result = referPiece' t) (ctx : Context) (e : Element) :
    (piece refer referPiece ctx e).result = piece refer' referPiece' ctx e := by
  have hrefs : forgetting.ReferencesAt (fun _ _ _ => True) ctx ctx refer refer' :=
    fun _ _ _ _ _ _ _ _ => h _
  have hvalue := fun e : Element => forgetting.value_rel (.refl ctx) hrefs e
    (e.everyReference_of_forall fun _ _ _ => trivial)
  have hvalues := fun es => forgetting.values_rel (.refl ctx) hrefs es
    (everyReferenceIn_of_forall (fun _ _ _ => trivial) es)
  have hbindings := fun bs => forgetting.bindings_rel (.refl ctx) hrefs bs
    (everyReferenceOf_of_forall (fun _ _ _ => trivial) bs)
  rcases e with l | path | ⟨name, args, options⟩ | ⟨resource, path, _ | overrides⟩
  · rfl
  · exact forgetting.rel_bind (hvalue _) fun _ => rfl
  · exact forgetting.rel_bind (hvalue _) fun _ => rfl
  · exact forgetting.rel_bind (hvalues path) fun _ => hpiece _
  · refine forgetting.rel_bind (hvalues path) fun _ => ?_
    exact forgetting.rel_bind (hbindings overrides) fun _ => hpiece _

theorem result_patternPieces (h : ∀ t, (refer t).result = refer' t)
    (hpiece : ∀ t, (referPiece t).result = referPiece' t) (ctx : Context) (es : Pattern) :
    (patternPieces refer referPiece ctx es).result = patternPieces refer' referPiece' ctx es := by
  induction es with
  | nil => rfl
  | cons e rest ih =>
      refine forgetting.rel_bind (result_piece h hpiece ctx e) fun _ => ?_
      exact forgetting.rel_bind ih fun _ => rfl

theorem result_messagePieces (h : ∀ t, (refer t).result = refer' t)
    (hpiece : ∀ t, (referPiece t).result = referPiece' t) (ctx : Context) (m : Message) :
    (messagePieces refer referPiece ctx m).result = messagePieces refer' referPiece' ctx m :=
  forgetting.pattern_bind_rel (.refl ctx) (p := fun _ _ _ => True) (fun _ _ _ _ _ _ _ _ => h _)
    (fun es _ => result_patternPieces h hpiece ctx es) m
    (m.everyReference_of_forall fun _ _ _ => trivial)

end Forgetting

theorem result_pieceOf {guarded : Guard} (room : Nat) (chain : Chain) (t : Target) :
    (pieceOf guarded room chain t : Traced Piece).result = pieceOf guarded room chain t := by
  induction room generalizing chain t with
  | zero => exact result_referring .none
  | succ room ih =>
      refine result_referring (.some fun m => ?_)
      exact forgetting.rel_bind (result_messagePieces (result_textOf _ _) (ih _) _ m) fun _ => rfl

/-- The record changes nothing about the pieces. -/
theorem result_piecesFrom {guarded : Guard} (ctx : Context) (m : Message) :
    (piecesFrom guarded ctx m : Traced (List Piece)).result = piecesFrom guarded ctx m :=
  result_messagePieces (result_textOf _ _) (result_pieceOf _ _) ctx m

-- ====================================================== what is missing

/-- The paths under which visits found no message, in order. -/
def missedPaths (visits : List Visit) : List (List String) :=
  (visits.filter fun v => v.outcome == .missing).map fun v => v.target.path

theorem missedPaths_append (vs ws : List Visit) :
    missedPaths (vs ++ ws) = missedPaths vs ++ missedPaths ws := by
  unfold missedPaths
  rw [List.filter_append, List.map_append]

section Accounted

variable {α : Type}

/-- The paths that are missing in what comes out were met on the way, in
the same order, with nothing found under them. -/
def Accounted (missing : α → List (List String)) (x : Traced α) : Prop :=
  ∀ a, x.result = .ok a → (missing a).Sublist (missedPaths x.visits)

theorem accounted_pure {missing : α → List (List String)} {a : α} (h : missing a = []) :
    Accounted missing (pure a : Traced α) := by
  intro a' ha
  cases ha
  rw [h]
  exact List.nil_sublist _

/-- Where nothing that came before is kept, what comes last decides. -/
theorem accounted_last {β : Type} {missing : β → List (List String)} {x : Traced α}
    {f : α → Traced β} (hf : ∀ a, Accounted missing (f a)) : Accounted missing (x >>= f) := by
  intro b hb
  obtain ⟨visits, result⟩ := x
  cases result with
  | error e => exact nomatch hb
  | ok a =>
      rw [Traced.ok_bind] at hb ⊢
      rw [missedPaths_append]
      exact (hf a b hb).trans (List.sublist_append_right ..)

/-- A piece in front adds what is missing in it. -/
theorem accounted_cons {x : Traced Piece} {y : Traced (List Piece)}
    (hx : Accounted Piece.missingPaths x) (hy : Accounted Piece.allMissingPaths y) :
    Accounted Piece.allMissingPaths (do
      let p ← x
      let ps ← y
      return p :: ps) := by
  intro pieces hpieces
  obtain ⟨visits, result⟩ := x
  obtain ⟨visits', result'⟩ := y
  cases result with
  | error e => exact nomatch hpieces
  | ok p =>
      cases result' with
      | error e => exact nomatch hpieces
      | ok ps =>
          cases hpieces
          simp only [Traced.ok_bind, Traced.pure_eq, List.append_nil]
          rw [missedPaths_append]
          exact (hx p rfl).append (hy ps rfl)

theorem accounted_message {x : Traced (List Piece)} (hx : Accounted Piece.allMissingPaths x) :
    Accounted Piece.missingPaths (do
      let pieces ← x
      return .message pieces) := by
  intro p hp
  obtain ⟨visits, result⟩ := x
  cases result with
  | error e => exact nomatch hp
  | ok pieces =>
      cases hp
      simp only [Traced.ok_bind, Traced.pure_eq, List.append_nil]
      exact hx pieces rfl

variable {refer : Target → Traced String} {referPiece : Target → Traced Piece}

theorem accounted_piece (h : ∀ t, Accounted Piece.missingPaths (referPiece t)) (ctx : Context)
    (e : Element) : Accounted Piece.missingPaths (piece refer referPiece ctx e) := by
  rcases e with l | path | ⟨name, args, options⟩ | ⟨resource, path, _ | overrides⟩
  · exact accounted_pure rfl
  · exact accounted_last fun _ => accounted_pure rfl
  · exact accounted_last fun _ => accounted_pure rfl
  · exact accounted_last fun _ => h _
  · exact accounted_last fun _ => accounted_last fun _ => h _

theorem accounted_patternPieces (h : ∀ t, Accounted Piece.missingPaths (referPiece t))
    (ctx : Context) (es : Pattern) :
    Accounted Piece.allMissingPaths (patternPieces refer referPiece ctx es) := by
  induction es with
  | nil => exact accounted_pure rfl
  | cons e rest ih => exact accounted_cons (accounted_piece h ctx e) ih

theorem accounted_messagePieces (h : ∀ t, Accounted Piece.missingPaths (referPiece t))
    (ctx : Context) (m : Message) :
    Accounted Piece.allMissingPaths (messagePieces refer referPiece ctx m) :=
  accounted_last fun es => accounted_patternPieces h ctx es

/-- A reference accounts for what is missing in its piece if its message
does: only a visit that finds no message leaves a missing piece. -/
theorem accounted_referring {guarded : Guard} {chain : Chain} {t : Target}
    {inner : Option (Chain → Context → Message → Traced Piece)}
    (h : ∀ body ∈ inner, ∀ m,
      Accounted Piece.missingPaths (body (chain ++ [t.frame]) t.context m)) :
    Accounted Piece.missingPaths (referring .missing guarded chain inner t) := by
  cases hm : t.message with
  | none =>
      rw [referring_missing hm]
      intro p hp
      cases hp
      exact List.Sublist.refl _
  | some m =>
      cases hg : guarded chain t.frame with
      | true => rw [referring_cyclic hm hg]; nofun
      | false =>
          cases inner with
          | none => rw [referring_tooDeep hm hg]; nofun
          | some body =>
              rw [referring_entered hm hg]
              exact accounted_last fun _ => h body rfl m

theorem accounted_pieceOf {guarded : Guard} (room : Nat) (chain : Chain) (t : Target) :
    Accounted Piece.missingPaths (pieceOf guarded room chain t) := by
  induction room generalizing chain t with
  | zero => exact accounted_referring nofun
  | succ room ih =>
      refine accounted_referring fun body hbody m => ?_
      cases hbody
      exact accounted_message (accounted_messagePieces (ih _) _ m)

end Accounted

-- ========================================================= whole runs

/-- The pieces of a message in a context. -/
def formatPieces (ctx : Context) (m : Message) : Except FormatError (List Piece) :=
  piecesFrom noRepeat ctx m

theorem formatText_eq (ctx : Context) (m : Message) :
    formatText ctx m = Piece.textOfAll <$> formatPieces ctx m := textFrom_eq ctx m

theorem formatParts_eq (ctx : Context) (m : Message) :
    formatParts ctx m = Piece.parts <$> formatPieces ctx m := partsFrom_eq ctx m

/-- Formatting to parts meets the same references as formatting to text,
in the same order and with the same outcomes. -/
theorem partsVisits_eq (ctx : Context) (m : Message) :
    partsVisits ctx m = textVisits ctx m := by
  unfold partsVisits textVisits
  rw [partsFrom_eq, textFrom_eq, Traced.visits_map, Traced.visits_map]

/-- What is missing in the pieces was met on the way, in the same order,
with nothing found. -/
theorem missing_sublist {ctx : Context} {m : Message} {pieces : List Piece}
    (hpieces : formatPieces ctx m = .ok pieces) :
    (Piece.allMissingPaths pieces).Sublist (missedPaths (textVisits ctx m)) := by
  unfold formatPieces at hpieces
  rw [← result_piecesFrom] at hpieces
  unfold textVisits
  rw [textFrom_eq, Traced.visits_map]
  exact accounted_messagePieces (accounted_pieceOf _ _) ctx m pieces hpieces

/-- No piece is missing where every visit met a message. -/
theorem allFound_of_visits {ctx : Context} {m : Message}
    (h : ∀ v ∈ textVisits ctx m, v.outcome ≠ .missing) {pieces : List Piece}
    (hpieces : formatPieces ctx m = .ok pieces) : Piece.allFound pieces = true := by
  have hmissed : missedPaths (textVisits ctx m) = [] := by
    unfold missedPaths
    rw [List.map_eq_nil_iff, List.filter_eq_nil_iff]
    simpa using h
  have hsublist := missing_sublist hpieces
  rw [hmissed] at hsublist
  exact Piece.allFound_of_missingPaths pieces (List.sublist_nil.mp hsublist)

/-- A visit that reports nothing found is one whose lookup has no message
under the path, in the resource that the target names. -/
theorem nothing_of_missing {ctx : Context} {m : Message} {v : Visit} (hv : v ∈ textVisits ctx m)
    (hmissing : v.outcome = .missing) :
    ctx.messages v.target.context.resourceId v.target.path = none := by
  have hsound := textVisits_sound v hv
  rw [← hsound.target.message]
  exact hsound.nothing_of_missing hmissing

/-- Formatting to parts fails exactly as formatting to text does. -/
theorem formatParts_error_iff {ctx : Context} {m : Message} {e : FormatError} :
    formatParts ctx m = .error e ↔ formatText ctx m = .error e := by
  rw [formatParts_eq, formatText_eq]
  cases formatPieces ctx m with
  | error e' => exact ⟨fun h => by cases h; rfl, fun h => by cases h; rfl⟩
  | ok pieces => exact ⟨nofun, nofun⟩

end MessageCatalog.Resolve
