/-
References that the linter vouches for.

The linter looks at every reference of a message, wherever it stands, and
checks those that stay within the resource and whose path is all
literals. A message without a finding on references is one all of whose
references of this kind name a message (`messageFindings_clean_iff`).

# What a run makes of it

A resource is closed if all its references are of the kind that is
checked. Then a run that starts in it never leaves it, and what the linter
has seen is what the run looks up: the segments of a path of literals are
the same in every context, and the resource of the context is always the
same one (`Target.Within`). So no reference is ever met that finds no
message, whatever the variables, functions and the limit are
(`clean_resource_finds_all`).
-/
import MessageCatalog.Proofs.Resolve.Runaway

namespace MessageCatalog

namespace Lint

variable {r : Resource}

-- ============================================================ findings

/-- No finding says that a reference is not resolved. -/
def Clean (findings : List Finding) : Prop := ∀ target, .unresolvedReference target ∉ findings

theorem clean_nil : Clean [] := fun _ => List.not_mem_nil

theorem clean_append {fs gs : List Finding} : Clean (fs ++ gs) ↔ Clean fs ∧ Clean gs := by
  unfold Clean
  simp only [List.mem_append, not_or, forall_and]

theorem clean_flatMap {α : Type} {xs : List α} {f : α → List Finding} :
    Clean (xs.flatMap f) ↔ ∀ x ∈ xs, Clean (f x) := by
  unfold Clean
  simp only [List.mem_flatMap, not_exists, not_and]
  exact ⟨fun h x hx target => h target x hx, fun h target x hx => h x hx target⟩

/-- A reference whose path is all literals and that stays within the
resource names one of its messages. -/
def Answered (r : Resource) : OfReference := fun resource path _ =>
  ∀ names, staticPath? path = some names → staysWithin r resource = true →
    (r.message? names).isSome

theorem referenceFinding_clean_iff {resource : Option String} {path : List Element}
    {overrides : Option (List (String × Override))} :
    Clean (referenceFinding r resource path) ↔ Answered r resource path overrides := by
  unfold referenceFinding Answered
  cases staticPath? path with
  | none => exact iff_of_true clean_nil nofun
  | some names =>
      simp only [Option.some.injEq, forall_eq']
      cases staysWithin r resource with
      | false => exact iff_of_true clean_nil nofun
      | true =>
          cases r.message? names with
          | none => simp [Clean]
          | some m => simp [Clean]

mutual

/-- The linter has nothing to say about the references in an element
exactly if all of them are answered. The induction follows the element. -/
theorem elementFindings_clean_iff :
    ∀ e : Element, Clean (elementFindings r e) ↔ e.EveryReference (Answered r)
  | .literal _ => iff_of_true clean_nil trivial
  | .variable path => elementsFindings_clean_iff path
  | .call _ args _ => elementsFindings_clean_iff args
  | .message resource path none => by
      rw [elementFindings, Element.EveryReference, clean_append, elementsFindings_clean_iff path,
        referenceFinding_clean_iff, and_comm]
  | .message resource path (some overrides) => by
      rw [elementFindings, Element.EveryReference, clean_append, clean_append,
        elementsFindings_clean_iff path, overridesFindings_clean_iff overrides,
        referenceFinding_clean_iff, and_comm]

theorem elementsFindings_clean_iff :
    ∀ es : List Element, Clean (elementsFindings r es) ↔ EveryReferenceIn (Answered r) es
  | [] => iff_of_true clean_nil trivial
  | e :: rest => by
      rw [elementsFindings, EveryReferenceIn, clean_append, elementFindings_clean_iff e,
        elementsFindings_clean_iff rest]

theorem overridesFindings_clean_iff :
    ∀ bs : List (String × Override),
      Clean (overridesFindings r bs) ↔ EveryReferenceOf (Answered r) bs
  | [] => iff_of_true clean_nil trivial
  | (_, .value _) :: rest => overridesFindings_clean_iff rest
  | (_, .element e) :: rest => by
      rw [overridesFindings, EveryReferenceOf, clean_append, elementFindings_clean_iff e,
        overridesFindings_clean_iff rest]

end

/-- What is wrong with cases is nothing about references. -/
theorem caseFindings_clean (defaults : List Literal) (index : Nat) (caught : Bool)
    (cases : List Case) : Clean (caseFindings defaults index caught cases) := by
  induction cases generalizing index caught with
  | nil =>
      unfold caseFindings
      split <;> simp [Clean]
  | cons c rest ih =>
      unfold caseFindings
      intro target hmem
      split at hmem
      · rcases List.mem_cons.mp hmem with heq | hmem
        · cases heq
        · exact ih _ _ target hmem
      · split at hmem
        · rcases List.mem_cons.mp hmem with heq | hmem
          · cases heq
          · exact ih _ _ target hmem
        · exact ih _ _ target hmem

theorem selectionFindings_clean (s : Selection) : Clean (selectionFindings s) := by
  unfold selectionFindings
  split
  · simp [Clean]
  · exact caseFindings_clean _ _ _ _

/-- The linter has nothing to say about the references of a message
exactly if all of them are answered. -/
theorem messageFindings_clean_iff (m : Message) :
    Clean (messageFindings r m) ↔ m.EveryReference (Answered r) := by
  cases m with
  | pattern p => exact elementsFindings_clean_iff p
  | select s =>
      rw [messageFindings, Message.EveryReference, clean_append, clean_append, clean_flatMap,
        clean_flatMap, and_assoc]
      simp only [selectionFindings_clean, true_and, elementFindings_clean_iff,
        elementsFindings_clean_iff]

/-- A resource without a warning on references has all those answered that
can be checked. -/
theorem answered_of_clean (h : ∀ w ∈ r.lint, ∀ target, w.finding ≠ .unresolvedReference target)
    {path : List String} {m : Message} (hm : (path, m) ∈ r.messages) :
    m.EveryReference (Answered r) := by
  rw [← messageFindings_clean_iff]
  intro target hmem
  have hlint : (⟨dotted path, .unresolvedReference target⟩ : Warning) ∈ r.lint :=
    List.mem_flatMap.mpr ⟨(path, m), hm, List.mem_map.mpr ⟨_, hmem, rfl⟩⟩
  exact h _ hlint target rfl

-- ===================================================== closed resources

/-- A reference by a path of literals that names no other resource. -/
def Closed (r : Resource) : OfReference := fun resource path _ =>
  (∀ e ∈ path, ∃ l, e = .literal l) ∧ ∀ id, resource = some id → id = r.id

theorem staticPath_of_literals {path : List Element} (h : ∀ e ∈ path, ∃ l, e = .literal l) :
    ∃ names, staticPath? path = some names := by
  induction path with
  | nil => exact ⟨[], rfl⟩
  | cons e rest ih =>
      obtain ⟨l, rfl⟩ := h e (List.mem_cons_self ..)
      obtain ⟨names, hnames⟩ := ih fun e' he' => h e' (List.mem_cons_of_mem _ he')
      exact ⟨l.text :: names, by rw [staticPath?, hnames]; rfl⟩

end Lint

namespace Resolve

variable {c : Catalog} {r : Resource} {root : Context}

/-- A target within a resource: the resource of its context, where its
message is found. -/
structure Target.Within (r : Resource) (t : Target) : Prop where
  resource : t.context.resourceId = some r.id
  found : t.message.isSome

/-- From within a resource that the catalog holds, a reference that names no
other resource leads to what lies there at its path. -/
theorem message_target (hstored : c.resource? r.id = some r) {ctx : Context}
    (hlookup : ctx.messages = c.lookup) (hctx : ctx.resourceId = some r.id)
    {resource : Option String} (hresource : ∀ id, resource = some id → id = r.id)
    (segments : List Value) (bs : Option (Dictionary Value)) :
    (target ctx resource segments bs).message = r.message? (segments.map Value.text) := by
  have hid : resource.or ctx.resourceId = some r.id := by
    cases resource with
    | none => exact hctx
    | some id => exact congrArg some (hresource id rfl)
  show ctx.messages (resource.or ctx.resourceId) (segments.map Value.text) = _
  rw [hid, hlookup]
  unfold Catalog.lookup
  rw [Option.bind_some, hstored, Option.bind_some]

theorem staysWithin_iff {resource : Option String} :
    Lint.staysWithin r resource = true ↔ ∀ id, resource = some id → id = r.id := by
  cases resource with
  | none => simp [Lint.staysWithin]
  | some id => simp [Lint.staysWithin]

/-- From within a resource that the catalog holds, a closed reference that
is answered leads to a target within the resource. -/
theorem target_within (hstored : c.resource? r.id = some r) {ctx : Context}
    (hlookup : ctx.messages = c.lookup) (hctx : ctx.resourceId = some r.id)
    {resource : Option String} {path : List Element}
    {overrides : Option (List (String × Override))}
    (href : (Lint.Closed r).and (Lint.Answered r) resource path overrides)
    {segments : List Value} (hknown : Known path segments) (bs : Option (Dictionary Value)) :
    (target ctx resource segments bs).Within r := by
  obtain ⟨⟨hliterals, hresource⟩, hanswered⟩ := href
  obtain ⟨names, hstatic⟩ := Lint.staticPath_of_literals hliterals
  constructor
  · show resource.or ctx.resourceId = some r.id
    cases resource with
    | none => exact hctx
    | some id => exact congrArg some (hresource id rfl)
  · rw [message_target hstored hlookup hctx hresource, hknown names hstatic]
    exact hanswered names hstatic (staysWithin_iff.mpr hresource)

/-- If all references of a resource are closed and answered, a run that is
within the resource stays there. -/
theorem textOf_within (hstored : c.resource? r.id = some r) (hroot : root.messages = c.lookup)
    (hrefs : ∀ q ∈ r.messages, q.2.EveryReference ((Lint.Closed r).and (Lint.Answered r)))
    (room : Nat) (chain : Chain) (t : Target) (ht : t.Sound root) (hwithin : t.Within r) :
    ∀ v ∈ (textOf noRepeat room chain t : Traced String).visits, v.target.Within r := by
  induction room generalizing chain t with
  | zero => exact everyVisit_referring (fun _ => hwithin) (by simp)
  | succ room ih =>
      refine everyVisit_referring (fun _ => hwithin) fun body hbody m hm _ => ?_
      cases hbody
      -- The message was found in the resource, so its references are closed
      -- and answered as well.
      have hlisted : (t.path, m) ∈ r.messages := by
        refine Resource.mem_messages ?_
        have hfound := ht.message.symm.trans hm
        rw [hroot, hwithin.resource] at hfound
        unfold Catalog.lookup at hfound
        rwa [Option.bind_some, hstored, Option.bind_some] at hfound
      refine (everyVisit _).messageText_self_at
        (fun resource path overrides href segments bs hknown _ => ?_) m (hrefs _ hlisted)
      have hlookup : t.context.messages = c.lookup := ht.settings.messages.trans hroot
      exact ih _ _ (target_sound ht.settings ..)
        (target_within hstored hlookup hwithin.resource href hknown bs)

/-- The same for a whole run that starts in the resource. -/
theorem textVisits_within (hstored : c.resource? r.id = some r) (hroot : root.messages = c.lookup)
    (hid : root.resourceId = some r.id)
    (hrefs : ∀ q ∈ r.messages, q.2.EveryReference ((Lint.Closed r).and (Lint.Answered r)))
    {path : List String} {m : Message} (hm : (path, m) ∈ r.messages) :
    ∀ v ∈ textVisits root m, v.target.Within r :=
  (everyVisit _).messageText_self_at
    (fun _ _ _ href _ bs hknown _ => textOf_within hstored hroot hrefs _ _ _
      (target_sound (.refl root) ..) (target_within hstored hroot hid href hknown bs)) m
    (hrefs _ hm)

end Resolve

namespace Catalog

open Resolve

variable {c : Catalog} {r : Resource}

/-- In a resource that refers to nothing but itself, and by fixed paths, a
linter without a warning on references is right: every reference that a
run meets finds its message. So no piece of what is formatted is missing,
and where formatting does not end with an error, the text is that of the
parts. -/
theorem clean_resource_finds_all (hstored : c.resource? r.id = some r)
    (hclosed : ∀ q ∈ r.messages, q.2.EveryReference (Lint.Closed r))
    (hclean : ∀ w ∈ r.lint, ∀ target, w.finding ≠ .unresolvedReference target)
    {path : List String} {m : Message} (hm : c.requireMessage r.id path = .ok m) (scope : Scope) :
    (∀ v, v ∈ textVisits (c.context r.id scope) m ∨ v ∈ partsVisits (c.context r.id scope) m →
      v.target.message.isSome ∧ v.outcome ≠ .missing) ∧
    ((∃ e, formatText (c.context r.id scope) m = .error e ∧
        formatParts (c.context r.id scope) m = .error e) ∨
      ∃ pieces, formatPieces (c.context r.id scope) m = .ok pieces ∧
        Piece.allFound pieces = true ∧
        formatText (c.context r.id scope) m = .ok (Part.textOfAll (Piece.parts pieces)) ∧
        formatParts (c.context r.id scope) m = .ok (Piece.parts pieces)) := by
  have hrefs : ∀ q ∈ r.messages, q.2.EveryReference ((Lint.Closed r).and (Lint.Answered r)) :=
    fun q hq => Message.everyReference_and (hclosed q hq) (Lint.answered_of_clean hclean hq)
  have hlisted : (path, m) ∈ r.messages := by
    have hfound := lookup_of_requireMessage hm
    unfold lookup at hfound
    rw [Option.bind_some, hstored, Option.bind_some] at hfound
    exact Resource.mem_messages hfound
  have hvisits : ∀ v ∈ textVisits (c.context r.id scope) m,
      v.target.message.isSome ∧ v.outcome ≠ .missing := by
    intro v hv
    have hfound : v.target.message.isSome :=
      (textVisits_within hstored rfl rfl hrefs hlisted v hv).found
    refine ⟨hfound, fun hmissing => ?_⟩
    rw [(textVisits_sound v hv).nothing_of_missing hmissing] at hfound
    cases hfound
  refine ⟨fun v hv => ?_, ?_⟩
  · rw [partsVisits_eq] at hv
    exact hvisits v (or_self_iff.mp hv)
  · cases hpieces : formatPieces (c.context r.id scope) m with
    | error e =>
        refine Or.inl ⟨e, ?_, ?_⟩
        · rw [formatText_eq, hpieces]
          rfl
        · rw [formatParts_eq, hpieces]
          rfl
    | ok pieces =>
        have hfound := allFound_of_visits (fun v hv => (hvisits v hv).2) hpieces
        refine Or.inr ⟨pieces, rfl, hfound, ?_, ?_⟩
        · rw [← Piece.textOfAll_eq_of_found pieces hfound, formatText_eq, hpieces]
          rfl
        · rw [formatParts_eq, hpieces]
          rfl

/-- A shop whose greeting refers to its name in the pattern, in an argument
and in a binding. -/
def shop : Resource :=
  let name : Element := .message none [.literal (.string "brand"), .literal (.string "name")] none
  ⟨"shop", "en",
    [("brand", .group [("name", .message (.pattern [.literal (.string "Acme")]))]),
      ("greeting", .message (.pattern
        [.literal (.string "Welcome to "), .call "upper" [name] [], .literal (.string ", "),
          .message (some "shop") [.literal (.string "slogan")] (some [("n", .element name)])])),
      ("slogan", .message (.pattern [.literal (.string "home of "), .variable
        [.literal (.string "n")]]))]⟩

theorem clean_resource_finds_all_shop :
    ∃ pieces, Piece.allFound pieces = true ∧
      Catalog.format { empty with resources := [("shop", shop)] } "shop" ["greeting"] []
        = .ok (Part.textOfAll (Piece.parts pieces)) := by
  let c : Catalog := { empty with resources := [("shop", shop)] }
  have hclosed : ∀ q ∈ shop.messages, q.2.EveryReference (Lint.Closed shop) := by
    simp [shop, Resource.messages, messagesOfEntries, Entry.messages, Message.EveryReference,
      EveryReferenceIn, EveryReferenceOf, Element.EveryReference, Lint.Closed]
  have hclean : ∀ w ∈ shop.lint, ∀ target, w.finding ≠ .unresolvedReference target := by
    have hnone : shop.lint = [] := by decide +kernel
    rw [hnone]
    exact fun w hw => absurd hw List.not_mem_nil
  obtain ⟨m, hm⟩ : ∃ m, c.requireMessage "shop" ["greeting"] = .ok m := ⟨_, rfl⟩
  obtain ⟨-, ⟨e, he, -⟩ | ⟨pieces, -, hfound, htext, -⟩⟩ :=
    clean_resource_finds_all (c := c) (r := shop) rfl hclosed hclean hm (.ofDictionary [])
  · have hok : c.format "shop" ["greeting"] [] = .ok "Welcome to ACME, home of Acme" := by
      decide +kernel
    unfold format at hok
    rw [hm] at hok
    cases hok.symm.trans he
  · refine ⟨pieces, hfound, ?_⟩
    rw [← htext]
    show c.format "shop" ["greeting"] [] = _
    unfold format
    rw [hm]
    rfl

end Catalog

end MessageCatalog
