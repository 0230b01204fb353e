/-
References with nothing left out.

A reference may leave out its resource, and then means the one that it
stands in; and it may leave out its overrides, and then leaves the scope
as it is. A reference that leaves out both goes on in the very context
that it stands in. Written out, it names its resource and overrides no
variables (`Element.explicit`), and every step into a message gets a
context and a frame of its own. Formatting does not change
(`Catalog.explicit_formats_alike`).

# Within a message

In a context of the resource that is written out, a reference and its
explicit form lead to targets that differ in an empty frame only. If no
difference is made between these (`Indifferent`), none is made between the
elements around them, up to the whole message (`messageText_explicit`,
`messageParts_explicit`).

# From message to message

What is written out in a message is the resource that the message lies
in, while what is left out means the resource of the context. These are
the same on the way through a run: a lookup finds a message in the
resource that its context then has, if every resource is stored under its
own id (`Catalog.lookup_explicit`). So a message in its resource and its
explicit form in a context in step are a simulation
(`simulation_writtenOut`); empty frames are not visible, so the contexts
stay in step (`InStep.extend_explicit`).
-/
import MessageCatalog.Proofs.Catalog
import MessageCatalog.Proofs.Resolve.Simulation

namespace MessageCatalog

-- ====================================================== explicit forms

mutual

/-- An element whose references leave nothing out; those that name no
resource mean the one with the id. -/
def Element.explicit (id : String) : Element → Element
  | .literal l => .literal l
  | .variable path => .variable (explicitIn id path)
  | .call name args options => .call name (explicitIn id args) options
  | .message resource path none =>
    .message (some (resource.getD id)) (explicitIn id path) (some [])
  | .message resource path (some overrides) =>
    .message (some (resource.getD id)) (explicitIn id path) (some (explicitOf id overrides))

/-- Elements whose references leave nothing out. -/
def explicitIn (id : String) : List Element → List Element
  | [] => []
  | e :: rest => e.explicit id :: explicitIn id rest

/-- Overrides whose references leave nothing out. -/
def explicitOf (id : String) : List (String × Override) → List (String × Override)
  | [] => []
  | (name, .value v) :: rest => (name, .value v) :: explicitOf id rest
  | (name, .element e) :: rest => (name, .element (e.explicit id)) :: explicitOf id rest

end

/-- A selector whose references leave nothing out. -/
def Selector.explicit (id : String) (s : Selector) : Selector :=
  { s with value := s.value.explicit id }

/-- A case whose references leave nothing out. -/
def Case.explicit (id : String) (c : Case) : Case :=
  { c with pattern := explicitIn id c.pattern }

/-- A message whose references leave nothing out. -/
def Message.explicit (id : String) : Message → Message
  | .pattern elements => .pattern (explicitIn id elements)
  | .select s =>
    .select ⟨s.selectors.map (Selector.explicit id), s.cases.map (Case.explicit id)⟩

/-- A resource whose references leave nothing out: those that name no
resource now name this one. -/
def Resource.explicit (r : Resource) : Resource := r.mapMessages (Message.explicit r.id)

/-- A catalog whose references leave nothing out. -/
def Catalog.explicit (c : Catalog) : Catalog :=
  { c with resources := c.resources.map fun q => (q.1, q.2.explicit) }

/-- A reference that leaves nothing out. -/
def Complete : OfReference := fun resource _ overrides => resource.isSome ∧ overrides.isSome

variable {id : String}

mutual

theorem Element.everyReference_explicit : ∀ e : Element, (e.explicit id).EveryReference Complete
  | .literal _ => trivial
  | .variable path => everyReferenceIn_explicit path
  | .call _ args _ => everyReferenceIn_explicit args
  | .message _ path none => ⟨⟨rfl, rfl⟩, everyReferenceIn_explicit path, trivial⟩
  | .message _ path (some overrides) =>
    ⟨⟨rfl, rfl⟩, everyReferenceIn_explicit path, everyReferenceOf_explicit overrides⟩

theorem everyReferenceIn_explicit : ∀ es : List Element,
    EveryReferenceIn Complete (explicitIn id es)
  | [] => trivial
  | e :: rest => ⟨e.everyReference_explicit, everyReferenceIn_explicit rest⟩

theorem everyReferenceOf_explicit : ∀ bs : List (String × Override),
    EveryReferenceOf Complete (explicitOf id bs)
  | [] => trivial
  | (_, .value _) :: rest => everyReferenceOf_explicit rest
  | (_, .element e) :: rest => ⟨e.everyReference_explicit, everyReferenceOf_explicit rest⟩

end

/-- Nothing is left out, in whatever place a reference stands. -/
theorem Message.everyReference_explicit (m : Message) :
    (m.explicit id).EveryReference Complete := by
  cases m with
  | pattern elements => exact everyReferenceIn_explicit elements
  | select s =>
      refine ⟨fun selector hselector => ?_, fun c hc => ?_⟩
      · obtain ⟨t, -, rfl⟩ := List.mem_map.mp hselector
        exact t.value.everyReference_explicit
      · obtain ⟨k, -, rfl⟩ := List.mem_map.mp hc
        exact everyReferenceIn_explicit k.pattern

namespace Resolve

-- ===================================================== within a message

section Message

variable {μ : Type → Type} [Monad μ]
variable {refer : Target → μ String} {referParts : Target → μ (List Part)} {ctx : Context}

/-- No difference is made between a reference and its explicit form. -/
structure Indifferent {α : Type} (ctx : Context) (id : String) (refer : Target → μ α) : Prop where
  plain : ∀ resource segments,
    refer (target ctx (some (resource.getD id)) segments (some []))
      = refer (target ctx resource segments none)
  overriding : ∀ resource segments bs,
    refer (target ctx (some (resource.getD id)) segments (some bs))
      = refer (target ctx resource segments (some bs))

mutual

theorem value_explicit [LawfulMonad μ] (h : Indifferent ctx id refer) :
    ∀ e : Element, value refer ctx (e.explicit id) = value refer ctx e
  | .literal l => rfl
  | .variable path => by rw [Element.explicit, value, value, values_explicit h path]
  | .call name args options => by rw [Element.explicit, value, value, values_explicit h args]
  | .message resource path none => by
      rw [Element.explicit, value, value, values_explicit h path]
      simp only [bindings, pure_bind, h.plain]
  | .message resource path (some overrides) => by
      rw [Element.explicit, value, value, values_explicit h path, bindings_explicit h overrides]
      simp only [h.overriding]

theorem values_explicit [LawfulMonad μ] (h : Indifferent ctx id refer) :
    ∀ es : List Element, values refer ctx (explicitIn id es) = values refer ctx es
  | [] => rfl
  | e :: rest => by
      rw [explicitIn, values, values, value_explicit h e, values_explicit h rest]

theorem bindings_explicit [LawfulMonad μ] (h : Indifferent ctx id refer) :
    ∀ bs : List (String × Override), bindings refer ctx (explicitOf id bs) = bindings refer ctx bs
  | [] => rfl
  | (name, .value v) :: rest => by
      rw [explicitOf, bindings, bindings, bindings_explicit h rest]
  | (name, .element e) :: rest => by
      rw [explicitOf, bindings, bindings, value_explicit h e, bindings_explicit h rest]

end

variable [LawfulMonad μ]

theorem part_explicit (h : Indifferent ctx id refer) (hparts : Indifferent ctx id referParts)
    (e : Element) : part refer referParts ctx (e.explicit id) = part refer referParts ctx e := by
  have hdynamic : ∀ e : Element,
      (do let v ← value refer ctx (e.explicit id); return Part.dynamic v)
        = (do let v ← value refer ctx e; return Part.dynamic v) := by
    intro e
    rw [value_explicit h]
  rcases e with l | path | ⟨name, args, options⟩ | ⟨resource, path, _ | overrides⟩
  · rfl
  · exact hdynamic (.variable path)
  · exact hdynamic (.call name args options)
  · rw [Element.explicit, part, part, values_explicit h path]
    simp only [bindings, pure_bind, hparts.plain]
  · rw [Element.explicit, part, part, values_explicit h path, bindings_explicit h overrides]
    simp only [hparts.overriding]

-- ============================================================ selection

theorem selectorValue_explicit (h : Indifferent ctx id refer) (s : Selector) :
    selectorValue refer ctx (s.explicit id) = selectorValue refer ctx s := by
  have hmatch : ∀ e : Element,
      (do let v ← value refer ctx (e.explicit id); return ctx.matchValue v)
        = (do let v ← value refer ctx e; return ctx.matchValue v) := by
    intro e
    rw [value_explicit h]
  obtain ⟨e, default⟩ := s
  unfold selectorValue Selector.explicit
  rcases e with l | path | ⟨name, args, options⟩ | ⟨resource, path, _ | overrides⟩
  · rfl
  · exact hmatch (.variable path)
  · simp only [Element.explicit, values_explicit h args]
  · exact hmatch (.message resource path none)
  · exact hmatch (.message resource path (some overrides))

theorem selectorValues_explicit (h : Indifferent ctx id refer) (ss : List Selector) :
    selectorValues refer ctx (ss.map (Selector.explicit id)) = selectorValues refer ctx ss := by
  induction ss with
  | nil => rfl
  | cons s rest ih =>
      rw [List.map_cons, selectorValues, selectorValues, selectorValue_explicit h, ih]
      rfl

/-- The same case is chosen, since its keys stay. -/
theorem choose_explicit (cases : List Case) (resolved : List (Literal × Value)) :
    choose (cases.map (Case.explicit id)) resolved = explicitIn id (choose cases resolved) := by
  have hfits : Case.fits resolved ∘ Case.explicit id = Case.fits resolved := rfl
  unfold choose
  rw [List.find?_map, hfits]
  cases cases.find? (Case.fits resolved) <;> rfl

theorem pattern_explicit (h : Indifferent ctx id refer) (m : Message) :
    pattern refer ctx (m.explicit id) = explicitIn id <$> pattern refer ctx m := by
  cases m with
  | pattern es => simp only [Message.explicit, pattern, map_pure]
  | select s =>
      simp only [Message.explicit, pattern, selectorValues_explicit h, choose_explicit, map_bind,
        map_pure]

-- ======================================================= whole messages

theorem patternText_explicit (h : Indifferent ctx id refer) (es : Pattern) :
    patternText refer ctx (explicitIn id es) = patternText refer ctx es := by
  induction es with
  | nil => rfl
  | cons e rest ih => rw [explicitIn, patternText, patternText, value_explicit h, ih]

theorem patternParts_explicit (h : Indifferent ctx id refer)
    (hparts : Indifferent ctx id referParts) (es : Pattern) :
    patternParts refer referParts ctx (explicitIn id es) = patternParts refer referParts ctx es := by
  induction es with
  | nil => rfl
  | cons e rest ih => rw [explicitIn, patternParts, patternParts, part_explicit h hparts, ih]

theorem messageText_explicit (h : Indifferent ctx id refer) (m : Message) :
    messageText refer ctx (m.explicit id) = messageText refer ctx m := by
  unfold messageText
  rw [pattern_explicit h, bind_map_left]
  simp only [patternText_explicit h]

theorem messageParts_explicit (h : Indifferent ctx id refer)
    (hparts : Indifferent ctx id referParts) (m : Message) :
    messageParts refer referParts ctx (m.explicit id) = messageParts refer referParts ctx m := by
  unfold messageParts
  rw [pattern_explicit h, bind_map_left]
  simp only [patternParts_explicit h hparts]

end Message

end Resolve

-- ======================================================= within a catalog

namespace Catalog

variable {c : Catalog}

theorem resource?_explicit (c : Catalog) (id : String) :
    c.explicit.resource? id = (c.resource? id).map Resource.explicit :=
  Dictionary.get?_map (fun _ => Resource.explicit) id c.resources

/-- Under every resource and path lies the explicit form of the message
that lies there. -/
theorem lookup_explicit (h : c.Filed) (id : String) (path : List String) :
    c.explicit.lookup (some id) path
      = (c.lookup (some id) path).map (Message.explicit id) := by
  unfold lookup
  rw [Option.bind_some, Option.bind_some, resource?_explicit]
  cases hr : c.resource? id with
  | none => rfl
  | some r =>
      rw [Option.map_some, Option.bind_some, Option.bind_some, Resource.explicit,
        Resource.message?_mapMessages, h.id_eq hr]

theorem requireMessage_explicit (h : c.Filed) (id : String) (path : List String) :
    c.explicit.requireMessage id path = Message.explicit id <$> c.requireMessage id path := by
  rw [requireMessage_eq, requireMessage_eq, lookup_explicit h]
  cases c.lookup (some id) path <;> rfl

/-- All references in an explicit catalog leave nothing out. -/
theorem everyReference_explicit (c : Catalog) :
    ∀ q ∈ c.explicit.listing, q.2.EveryReference Complete := by
  intro q hq
  obtain ⟨r, hr, hq⟩ := List.mem_flatMap.mp hq
  obtain ⟨r', -, rfl⟩ := List.mem_map.mp hr
  obtain ⟨q', hq', rfl⟩ := List.mem_map.mp hq
  rw [Resource.explicit, Resource.messages_mapMessages] at hq'
  obtain ⟨q'', -, rfl⟩ := List.mem_map.mp hq'
  exact q''.2.everyReference_explicit

end Catalog

-- ========================================================== simulation

namespace Resolve

/-- A frame that binds nothing leaves contexts in step, and so does naming
the resource that a context has anyway. -/
theorem InStep.extend_explicit {ctx ctx' : Context} (h : InStep ctx ctx')
    (hid : ctx.resourceId = some id) (resource : Option String)
    (overrides : Option (Dictionary Value)) :
    InStep (ctx.extend resource overrides)
      (ctx'.extend (some (resource.getD id)) (some (overrides.getD []))) := by
  have hvisible : (ctx.extend resource overrides).scope.flatten
      = (ctx'.extend (some (resource.getD id)) (some (overrides.getD []))).scope.flatten := by
    cases overrides with
    | none => exact h.visible
    | some frame => exact (h.extend resource (some frame)).visible
  refine ⟨⟨Scope.get?_eq_of_visible hvisible, h.result⟩, ?_, hvisible, h.maxDepth⟩
  show resource.or ctx.resourceId = some (resource.getD id)
  rw [hid]
  cases resource <;> rfl

/-- Contexts in step that are in a resource, the one over a catalog, the
other over its explicit form. -/
structure Beside (c : Catalog) (id : String) (ctx ctx' : Context) : Prop
    extends InStep ctx ctx' where
  own : ctx.resourceId = some id
  messages : ctx.messages = c.lookup
  explicit : ctx'.messages = c.explicit.lookup

/-- A message in its resource, and its explicit form. -/
def WrittenOut (c : Catalog) : Relation := fun ctx m ctx' m' =>
  ∃ id, Beside c id ctx ctx' ∧ m' = m.explicit id

namespace Beside

variable {c : Catalog} {ctx ctx' : Context}

/-- References that keep the contexts in step lead to a message and its
explicit form, in the resource that the message lies in. -/
theorem matched (hfiled : c.Filed) (h : Beside c id ctx ctx') {resource resource' : Option String}
    {overrides overrides' : Option (Dictionary Value)} (segments : List Value)
    (hstep : InStep (ctx.extend resource overrides) (ctx'.extend resource' overrides')) :
    Matched (WrittenOut c) (target ctx resource segments overrides)
      (target ctx' resource' segments overrides') := by
  refine ⟨rfl, mark_of_inStep rfl hstep, h.maxDepth, ?_⟩
  have hsame : resource.or ctx.resourceId = resource'.or ctx'.resourceId := hstep.resource
  have howner : resource.or ctx.resourceId = some (resource.getD id) := by
    rw [h.own]
    cases resource <;> rfl
  show Option.Rel _ (ctx.messages (resource.or ctx.resourceId) (segments.map Value.text))
    (ctx'.messages (resource'.or ctx'.resourceId) (segments.map Value.text))
  rw [← hsame, h.messages, h.explicit, howner, Catalog.lookup_explicit hfiled]
  cases c.lookup (some (resource.getD id)) (segments.map Value.text) with
  | none => exact .none
  | some m => exact .some ⟨_, ⟨hstep, howner, h.messages, h.explicit⟩, rfl⟩

/-- Over the explicit form of a catalog no difference is made between a
reference and its explicit form: both match the reference over the
catalog. -/
theorem indifferent {α : Type} {refer refer' : Target → Except FormatError α} (hfiled : c.Filed)
    (h : Beside c id ctx ctx') (hrefer : ∀ t u, Matched (WrittenOut c) t u → refer t = refer' u) :
    Indifferent ctx' id refer' := by
  have hboth : ∀ resource segments overrides,
      refer' (target ctx' (some (resource.getD id)) segments (some (overrides.getD [])))
        = refer' (target ctx' resource segments overrides) := by
    intro resource segments overrides
    rw [← hrefer _ _ (h.matched hfiled segments (h.extend resource overrides)),
      ← hrefer _ _ (h.matched hfiled segments (h.extend_explicit h.own resource overrides))]
  exact ⟨fun resource segments => hboth resource segments none,
    fun resource segments bs => hboth resource segments (some bs)⟩

end Beside

theorem simulation_writtenOut {c : Catalog} (hfiled : c.Filed) : Simulation (WrittenOut c) where
  text := by
    rintro ctx m ctx' _ ⟨id, hbeside, rfl⟩ refer refer' hrefer
    rw [messageText_explicit (hbeside.indifferent hfiled hrefer)]
    exact identical.messageText_rel hbeside.toAgree
      (fun resource segments overrides => hrefer _ _
        (hbeside.matched hfiled segments (hbeside.extend resource overrides))) m
  parts := by
    rintro ctx m ctx' _ ⟨id, hbeside, rfl⟩ refer refer' referParts referParts' hrefer hreferParts
    rw [messageParts_explicit (hbeside.indifferent hfiled hrefer)
      (hbeside.indifferent hfiled hreferParts)]
    exact identical.messageParts_rel hbeside.toAgree
      (fun resource segments overrides => hrefer _ _
        (hbeside.matched hfiled segments (hbeside.extend resource overrides)))
      (fun resource segments overrides => hreferParts _ _
        (hbeside.matched hfiled segments (hbeside.extend resource overrides))) m

end Resolve

-- ========================================================= whole runs

namespace Catalog

open Resolve

variable {c : Catalog}

/-- A run over a catalog and one over its explicit form start in the same
resource. -/
theorem beside_context (c : Catalog) (id : String) (scope : Scope) :
    Beside c id (c.context id scope) (c.explicit.context id scope) where
  get _ := rfl
  result _ _ _ _ := rfl
  resource := rfl
  visible := rfl
  maxDepth := rfl
  own := rfl
  messages := rfl
  explicit := rfl

/-- Nothing depends on what references leave out. In the explicit form of a
catalog every reference names its resource and overrides variables, so
none leaves its context as it is; and every message has the text and the
parts that it has in the catalog, or the same error. -/
theorem explicit_formats_alike (h : c.Filed) :
    (∀ q ∈ c.explicit.listing, q.2.EveryReference Complete) ∧
    ∀ id path bindings,
      c.explicit.format id path bindings = c.format id path bindings ∧
        c.explicit.formatToParts id path bindings = c.formatToParts id path bindings := by
  refine ⟨everyReference_explicit c, fun id path bindings => ?_⟩
  unfold format formatToParts
  rw [requireMessage_explicit h]
  cases hm : c.requireMessage id path with
  | error e => exact ⟨rfl, rfl⟩
  | ok m =>
      have hrelated : WrittenOut c _ m _ (m.explicit id) :=
        ⟨id, beside_context c id (.ofDictionary bindings), rfl⟩
      have hsimulation := simulation_writtenOut h
      exact ⟨(formatText_of_simulation hsimulation hrelated rfl).symm,
        (formatParts_of_simulation hsimulation hrelated rfl).symm⟩

/-- A resource whose greeting leaves out that the name is its own, and one
that leads to the greeting. -/
def detour : Catalog :=
  ((empty.add ⟨"out", "en",
      [("greeting", .message (.pattern [.literal (.string "Hello, "),
          .message none [.literal (.string "name")] none])),
        ("loop", .message (reference ["loop"])),
        ("name", .message (.pattern [.literal (.string "Ann")]))]⟩).2.add
    ⟨"res", "en",
      [("name", .message (.pattern [.literal (.string "Bob")])),
        ("start", .message (.pattern
          [.message (some "out") [.literal (.string "greeting")] none]))]⟩).2

theorem explicit_formats_alike_detour :
    detour.Filed ∧ detour.explicit.format "res" ["start"] [] = .ok "Hello, Ann" ∧
    detour.explicit.formatToParts "out" ["loop"] []
      = .error (.cyclicReference ["out:loop", "out:loop"]) := by
  have hfiled : detour.Filed := (filed_empty.add _).add _
  have hformat : detour.format "res" ["start"] [] = .ok "Hello, Ann" := rfl
  have hcycle : detour.formatToParts "out" ["loop"] []
      = .error (.cyclicReference ["out:loop", "out:loop"]) := rfl
  obtain ⟨-, halike⟩ := explicit_formats_alike hfiled
  exact ⟨hfiled, (halike "res" ["start"] []).1.trans hformat,
    (halike "out" ["loop"] []).2.trans hcycle⟩

end Catalog

end MessageCatalog
