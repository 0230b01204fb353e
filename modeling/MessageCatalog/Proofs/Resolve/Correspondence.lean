/-
Two walks through the same message.

The walk through a message does not say in which kind of computation it
takes place, and all that it is told of its references is what they
stand for. So whatever two kinds of computation have in common, as long
as it is kept by returning and by sequencing, is common to the whole
walk as soon as it is common to the references (`messageText_rel`,
`messageParts_rel`). Only the references that stand in the message have
to be looked at (`messageText_rel_of`, `messageParts_rel_of`), and of a
path that consists of literals the texts of its segments are known
(`messageText_rel_at`, `messageParts_rel_at`).

Every comparison of two ways to resolve is an instance: with and without
a record of visits, with and without a guard, in contexts that are
alike, with more room or less. None of them looks at elements again.
-/
import MessageCatalog.Lint
import MessageCatalog.Proofs.Context
import MessageCatalog.Proofs.References

namespace MessageCatalog.Resolve

-- ========================================================= static paths

/-- The segments of a path are resolved to the texts that its literals
say, if it consists of literals. -/
def Known (path : List Element) (segments : List Value) : Prop :=
  ∀ names, Lint.staticPath? path = some names → segments.map Value.text = names

/-- A path of literals is resolved without a look at references or
context. -/
theorem values_static {path : List Element} {names : List String}
    (h : Lint.staticPath? path = some names) :
    ∃ segments : List Value, segments.map Value.text = names ∧
      ∀ {μ : Type → Type} [Monad μ] [LawfulMonad μ] (refer : Target → μ String) (ctx : Context),
        values refer ctx path = pure segments := by
  induction path generalizing names with
  | nil =>
      cases h
      exact ⟨[], rfl, fun _ _ => by rw [values]⟩
  | cons e rest ih =>
      cases e with
      | literal l =>
          obtain ⟨names', hrest, rfl⟩ := Option.map_eq_some_iff.mp h
          obtain ⟨segments, htexts, hvalues⟩ := ih hrest
          refine ⟨.ofLiteral l :: segments, ?_, fun refer ctx => ?_⟩
          · have hl : (Value.ofLiteral l).text = l.text := by cases l <;> rfl
            rw [List.map_cons, hl, htexts]
          · rw [values, value, hvalues, pure_bind, pure_bind]
      | _ => exact nomatch h

/-- A relation between computations of two kinds that returning and
sequencing keep. -/
structure Correspondence (μ ν : Type → Type) [Monad μ] [Monad ν] where
  rel : {α : Type} → μ α → ν α → Prop
  rel_pure : ∀ {α : Type} (a : α), rel (pure a) (pure a)
  rel_bind : ∀ {α β : Type} {x : μ α} {y : ν α} {f : α → μ β} {g : α → ν β},
    rel x y → (∀ a, rel (f a) (g a)) → rel (x >>= f) (y >>= g)

namespace Correspondence

variable {μ ν : Type → Type} [Monad μ] [Monad ν] (R : Correspondence μ ν)
variable {c d : Context} {refer : Target → μ String} {refer' : Target → ν String}
variable {referParts : Target → μ (List Part)} {referParts' : Target → ν (List Part)}
variable {p : OfReference}

/-- References from two contexts correspond: what one leads to on one side
stands for the same as what it leads to on the other. -/
def References {α : Type} (c d : Context) (refer : Target → μ α) (refer' : Target → ν α) :
    Prop :=
  ∀ resource segments overrides,
    R.rel (refer (target c resource segments overrides))
      (refer' (target d resource segments overrides))

/-- References with a property correspond. What a reference leads to has
bindings exactly if the reference has overrides. -/
def ReferencesOf {α : Type} (p : OfReference) (c d : Context) (refer : Target → μ α)
    (refer' : Target → ν α) : Prop :=
  ∀ resource path overrides, p resource path overrides →
    ∀ segments bs, Option.isSome bs = overrides.isSome →
      R.rel (refer (target c resource segments bs)) (refer' (target d resource segments bs))

/-- References with a property correspond where the segments of their paths
are resolved to what is known of them. -/
def ReferencesAt {α : Type} (p : OfReference) (c d : Context) (refer : Target → μ α)
    (refer' : Target → ν α) : Prop :=
  ∀ resource path overrides, p resource path overrides →
    ∀ segments bs, Known path segments → Option.isSome bs = overrides.isSome →
      R.rel (refer (target c resource segments bs)) (refer' (target d resource segments bs))

theorem ReferencesOf.referencesAt {R : Correspondence μ ν} {α : Type} {f : Target → μ α}
    {g : Target → ν α} (h : R.ReferencesOf p c d f g) : R.ReferencesAt p c d f g :=
  fun resource path overrides hp segments bs _ => h resource path overrides hp segments bs

theorem References.referencesOf {R : Correspondence μ ν} {α : Type} {f : Target → μ α}
    {g : Target → ν α} (h : R.References c d f g) :
    R.ReferencesOf (fun _ _ _ => True) c d f g :=
  fun resource _ _ _ segments bs _ => h resource segments bs

-- ===================================================== within a message

/-- Going on with the segments of a path corresponds if it does for all
that they can be. -/
theorem segments_bind_rel [LawfulMonad μ] [LawfulMonad ν] {α : Type} {path : List Element}
    {f : List Value → μ α} {g : List Value → ν α}
    (hpath : R.rel (values refer c path) (values refer' d path))
    (hfg : ∀ segments, Known path segments → R.rel (f segments) (g segments)) :
    R.rel (values refer c path >>= f) (values refer' d path >>= g) := by
  cases hstatic : Lint.staticPath? path with
  | none =>
      refine R.rel_bind hpath fun segments => hfg segments fun names hnames => ?_
      exact nomatch hstatic.symm.trans hnames
  | some names =>
      -- A path of literals has no effect, and its segments are at hand.
      obtain ⟨segments, htexts, hvalues⟩ := values_static hstatic
      rw [hvalues, hvalues, pure_bind, pure_bind]
      refine hfg segments fun names' hnames => ?_
      rw [htexts]
      exact Option.some.inj (hstatic.symm.trans hnames)

mutual

/-- The value of an element. The induction follows the element; a
reference is settled by the hypothesis once its segments and overrides
are. -/
theorem value_rel [LawfulMonad μ] [LawfulMonad ν] (hcd : c.Agree d)
    (h : R.ReferencesAt p c d refer refer') :
    ∀ e : Element, e.EveryReference p → R.rel (value refer c e) (value refer' d e)
  | .literal l, _ => by
      unfold value
      exact R.rel_pure _
  | .variable path, he => by
      unfold value
      refine R.rel_bind (values_rel hcd h path he) fun keys => ?_
      rw [hcd.walk]
      exact R.rel_pure _
  | .call name args options, he => by
      unfold value
      refine R.rel_bind (values_rel hcd h args he) fun args => ?_
      rw [hcd.callFormat]
      exact R.rel_pure _
  | .message resource path none, ⟨hp, hpath⟩ => by
      unfold value
      refine R.segments_bind_rel (values_rel hcd h path hpath) fun segments hknown => ?_
      exact R.rel_bind (h resource path none hp segments none hknown rfl) fun text => R.rel_pure _
  | .message resource path (some overrides), ⟨hp, hpath, hoverrides⟩ => by
      unfold value
      refine R.segments_bind_rel (values_rel hcd h path hpath) fun segments hknown => ?_
      refine R.rel_bind (bindings_rel hcd h overrides hoverrides) fun bs => ?_
      exact R.rel_bind (h resource path (some overrides) hp segments (some bs) hknown rfl)
        fun text => R.rel_pure _

theorem values_rel [LawfulMonad μ] [LawfulMonad ν] (hcd : c.Agree d)
    (h : R.ReferencesAt p c d refer refer') :
    ∀ es : List Element, EveryReferenceIn p es → R.rel (values refer c es) (values refer' d es)
  | [], _ => by
      unfold values
      exact R.rel_pure _
  | e :: rest, ⟨he, hrest⟩ => by
      unfold values
      refine R.rel_bind (value_rel hcd h e he) fun v => ?_
      exact R.rel_bind (values_rel hcd h rest hrest) fun vs => R.rel_pure _

theorem bindings_rel [LawfulMonad μ] [LawfulMonad ν] (hcd : c.Agree d)
    (h : R.ReferencesAt p c d refer refer') :
    ∀ bs : List (String × Override), EveryReferenceOf p bs →
      R.rel (bindings refer c bs) (bindings refer' d bs)
  | [], _ => by
      unfold bindings
      exact R.rel_pure _
  | (name, .value v) :: rest, hrest => by
      unfold bindings
      exact R.rel_bind (bindings_rel hcd h rest hrest) fun bs => R.rel_pure _
  | (name, .element e) :: rest, ⟨he, hrest⟩ => by
      unfold bindings
      refine R.rel_bind (value_rel hcd h e he) fun v => ?_
      exact R.rel_bind (bindings_rel hcd h rest hrest) fun bs => R.rel_pure _

end

section Lawful

variable [LawfulMonad μ] [LawfulMonad ν]

/-- The part of an element; literals, variables and calls leave the same
part, a reference whatever stands for it on its side. -/
theorem part_rel (hcd : c.Agree d) (h : R.ReferencesAt p c d refer refer')
    (hparts : R.ReferencesAt p c d referParts referParts') :
    ∀ e : Element, e.EveryReference p →
      R.rel (part refer referParts c e) (part refer' referParts' d e)
  | .literal l, _ => by
      unfold part
      exact R.rel_pure _
  | .variable path, he => by
      unfold part
      exact R.rel_bind (R.value_rel hcd h (.variable path) he) fun v => R.rel_pure _
  | .call name args options, he => by
      unfold part
      exact R.rel_bind (R.value_rel hcd h (.call name args options) he) fun v => R.rel_pure _
  | .message resource path none, ⟨hp, hpath⟩ => by
      unfold part
      refine R.segments_bind_rel (R.values_rel hcd h path hpath) fun segments hknown => ?_
      exact R.rel_bind (hparts resource path none hp segments none hknown rfl)
        fun ps => R.rel_pure _
  | .message resource path (some overrides), ⟨hp, hpath, hoverrides⟩ => by
      unfold part
      refine R.segments_bind_rel (R.values_rel hcd h path hpath) fun segments hknown => ?_
      refine R.rel_bind (R.bindings_rel hcd h overrides hoverrides) fun bs => ?_
      exact R.rel_bind (hparts resource path (some overrides) hp segments (some bs) hknown rfl)
        fun ps => R.rel_pure _

-- ============================================================ selection

theorem selectorValue_rel (hcd : c.Agree d) (h : R.ReferencesAt p c d refer refer')
    (s : Selector) (hs : s.value.EveryReference p) :
    R.rel (selectorValue refer c s) (selectorValue refer' d s) := by
  unfold selectorValue
  cases hv : s.value with
  | call name args options =>
      rw [hv] at hs
      refine R.rel_bind (R.values_rel hcd h args hs) fun args => ?_
      rw [hcd.callSelect, hcd.matchValue]
      exact R.rel_pure _
  | _ =>
      refine R.rel_bind (R.value_rel hcd h _ (hv ▸ hs)) fun v => ?_
      rw [hcd.matchValue]
      exact R.rel_pure _

theorem selectorValues_rel (hcd : c.Agree d) (h : R.ReferencesAt p c d refer refer')
    (ss : List Selector) (hss : ∀ s ∈ ss, s.value.EveryReference p) :
    R.rel (selectorValues refer c ss) (selectorValues refer' d ss) := by
  induction ss with
  | nil =>
      unfold selectorValues
      exact R.rel_pure _
  | cons s rest ih =>
      unfold selectorValues
      refine R.rel_bind (R.selectorValue_rel hcd h s (hss s (List.mem_cons_self ..))) fun v => ?_
      have hrest := ih fun s' hs' => hss s' (List.mem_cons_of_mem _ hs')
      exact R.rel_bind hrest fun vs => R.rel_pure _

-- ======================================================= whole messages

theorem patternText_rel (hcd : c.Agree d) (h : R.ReferencesAt p c d refer refer')
    (es : Pattern) (hes : EveryReferenceIn p es) :
    R.rel (patternText refer c es) (patternText refer' d es) := by
  induction es with
  | nil =>
      unfold patternText
      exact R.rel_pure _
  | cons e rest ih =>
      unfold patternText
      refine R.rel_bind (R.value_rel hcd h e hes.1) fun v => ?_
      exact R.rel_bind (ih hes.2) fun text => R.rel_pure _

theorem patternParts_rel (hcd : c.Agree d) (h : R.ReferencesAt p c d refer refer')
    (hparts : R.ReferencesAt p c d referParts referParts') (es : Pattern)
    (hes : EveryReferenceIn p es) :
    R.rel (patternParts refer referParts c es) (patternParts refer' referParts' d es) := by
  induction es with
  | nil =>
      unfold patternParts
      exact R.rel_pure _
  | cons e rest ih =>
      unfold patternParts
      refine R.rel_bind (R.part_rel hcd h hparts e hes.1) fun q => ?_
      exact R.rel_bind (ih hes.2) fun ps => R.rel_pure _

/-- All references in the chosen pattern of a selection are references of
the selection. -/
theorem everyReferenceIn_choose {cases : List Case}
    (hcases : ∀ k ∈ cases, EveryReferenceIn p k.pattern) (resolved : List (Literal × Value)) :
    EveryReferenceIn p (choose cases resolved) := by
  unfold choose
  cases hfind : cases.find? (Case.fits resolved) with
  | none => trivial
  | some k => exact hcases k (List.mem_of_find?_eq_some hfind)

/-- Going on with the pattern of a message corresponds if it does for all
patterns that the message may choose. -/
theorem pattern_bind_rel {α : Type} (hcd : c.Agree d) (h : R.ReferencesAt p c d refer refer')
    {f : Pattern → μ α} {g : Pattern → ν α}
    (hfg : ∀ es, EveryReferenceIn p es → R.rel (f es) (g es)) (m : Message)
    (hm : m.EveryReference p) :
    R.rel (pattern refer c m >>= f) (pattern refer' d m >>= g) := by
  cases m with
  | pattern es =>
      unfold pattern
      rw [pure_bind, pure_bind]
      exact hfg es hm
  | select s =>
      unfold pattern
      obtain ⟨hselectors, hcases⟩ := hm
      simp only [bind_assoc, pure_bind]
      refine R.rel_bind (R.selectorValues_rel hcd h s.selectors hselectors) fun resolved => ?_
      exact hfg _ (everyReferenceIn_choose hcases resolved)

/-- The text of a message corresponds as soon as its references do where
their segments are known. -/
theorem messageText_rel_at (hcd : c.Agree d) (h : R.ReferencesAt p c d refer refer')
    (m : Message) (hm : m.EveryReference p) :
    R.rel (messageText refer c m) (messageText refer' d m) :=
  R.pattern_bind_rel hcd h (R.patternText_rel hcd h) m hm

/-- The parts of a message correspond as soon as its references do where
their segments are known. -/
theorem messageParts_rel_at (hcd : c.Agree d) (h : R.ReferencesAt p c d refer refer')
    (hparts : R.ReferencesAt p c d referParts referParts') (m : Message)
    (hm : m.EveryReference p) :
    R.rel (messageParts refer referParts c m) (messageParts refer' referParts' d m) :=
  R.pattern_bind_rel hcd h (R.patternParts_rel hcd h hparts) m hm

/-- The text of a message corresponds as soon as its references do. -/
theorem messageText_rel_of (hcd : c.Agree d) (h : R.ReferencesOf p c d refer refer')
    (m : Message) (hm : m.EveryReference p) :
    R.rel (messageText refer c m) (messageText refer' d m) :=
  R.messageText_rel_at hcd h.referencesAt m hm

/-- The parts of a message correspond as soon as its references do. -/
theorem messageParts_rel_of (hcd : c.Agree d) (h : R.ReferencesOf p c d refer refer')
    (hparts : R.ReferencesOf p c d referParts referParts') (m : Message)
    (hm : m.EveryReference p) :
    R.rel (messageParts refer referParts c m) (messageParts refer' referParts' d m) :=
  R.messageParts_rel_at hcd h.referencesAt hparts.referencesAt m hm

-- ======================================================= all references

/-- The text of a message corresponds if all references do. -/
theorem messageText_rel (hcd : c.Agree d) (h : R.References c d refer refer') (m : Message) :
    R.rel (messageText refer c m) (messageText refer' d m) :=
  R.messageText_rel_of hcd h.referencesOf m (m.everyReference_of_forall fun _ _ _ => trivial)

/-- The parts of a message correspond if all references do. -/
theorem messageParts_rel (hcd : c.Agree d) (h : R.References c d refer refer')
    (hparts : R.References c d referParts referParts') (m : Message) :
    R.rel (messageParts refer referParts c m) (messageParts refer' referParts' d m) :=
  R.messageParts_rel_of hcd h.referencesOf hparts.referencesOf m
    (m.everyReference_of_forall fun _ _ _ => trivial)

end Lawful

-- ==================================================== one computation

/-- What holds of the references of a message holds of its text. -/
theorem messageText_self [LawfulMonad μ] (R : Correspondence μ μ) (h : R.References c c refer refer)
    (m : Message) : R.rel (messageText refer c m) (messageText refer c m) :=
  R.messageText_rel (.refl c) h m

/-- What holds of the references with a property, where their segments are
known, holds of the text of a message all of whose references have it. -/
theorem messageText_self_at [LawfulMonad μ] (R : Correspondence μ μ)
    (h : R.ReferencesAt p c c refer refer) (m : Message) (hm : m.EveryReference p) :
    R.rel (messageText refer c m) (messageText refer c m) :=
  R.messageText_rel_at (.refl c) h m hm

/-- What holds of the references with a property holds of the text of a
message all of whose references have it. -/
theorem messageText_self_of [LawfulMonad μ] (R : Correspondence μ μ)
    (h : R.ReferencesOf p c c refer refer) (m : Message) (hm : m.EveryReference p) :
    R.rel (messageText refer c m) (messageText refer c m) :=
  R.messageText_self_at h.referencesAt m hm

end Correspondence

end MessageCatalog.Resolve
