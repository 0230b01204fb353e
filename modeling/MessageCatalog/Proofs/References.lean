/-
The references in a message.

References stand in patterns, and also where only a value is needed: in
the paths of variables and of other references, in arguments, in
selectors, and in the elements that overrides bind. `EveryReference p`
says that all references of a message have a property, wherever they
stand and however deep; of two properties that all references have, each
reference has both (`Message.everyReference_and`).
-/
import MessageCatalog.Message

namespace MessageCatalog

/-- What can be said of a reference: of its resource, its path and its
overrides. -/
abbrev OfReference :=
  Option String → List Element → Option (List (String × Override)) → Prop

mutual

/-- All references in an element, at any depth, have a property. -/
def Element.EveryReference (p : OfReference) : Element → Prop
  | .literal _ => True
  | .variable path => EveryReferenceIn p path
  | .call _ args _ => EveryReferenceIn p args
  | .message resource path none => p resource path none ∧ EveryReferenceIn p path
  | .message resource path (some overrides) =>
    p resource path (some overrides) ∧ EveryReferenceIn p path ∧ EveryReferenceOf p overrides

/-- All references in a list of elements have a property. -/
def EveryReferenceIn (p : OfReference) : List Element → Prop
  | [] => True
  | e :: rest => e.EveryReference p ∧ EveryReferenceIn p rest

/-- All references in the elements of overrides have a property. -/
def EveryReferenceOf (p : OfReference) : List (String × Override) → Prop
  | [] => True
  | (_, .value _) :: rest => EveryReferenceOf p rest
  | (_, .element e) :: rest => e.EveryReference p ∧ EveryReferenceOf p rest

end

/-- All references of a message have a property: those in its pattern, or
those in its selectors and in the patterns of its cases. -/
def Message.EveryReference (p : OfReference) : Message → Prop
  | .pattern elements => EveryReferenceIn p elements
  | .select s =>
    (∀ selector ∈ s.selectors, selector.value.EveryReference p) ∧
      ∀ c ∈ s.cases, EveryReferenceIn p c.pattern

variable {p : OfReference}

mutual

theorem Element.everyReference_of_forall
    (h : ∀ resource path overrides, p resource path overrides) : ∀ e : Element, e.EveryReference p
  | .literal _ => trivial
  | .variable path => everyReferenceIn_of_forall h path
  | .call _ args _ => everyReferenceIn_of_forall h args
  | .message resource path none => ⟨h resource path none, everyReferenceIn_of_forall h path⟩
  | .message resource path (some overrides) =>
    ⟨h resource path (some overrides), everyReferenceIn_of_forall h path,
      everyReferenceOf_of_forall h overrides⟩

theorem everyReferenceIn_of_forall (h : ∀ resource path overrides, p resource path overrides) :
    ∀ es : List Element, EveryReferenceIn p es
  | [] => trivial
  | e :: rest => ⟨e.everyReference_of_forall h, everyReferenceIn_of_forall h rest⟩

theorem everyReferenceOf_of_forall (h : ∀ resource path overrides, p resource path overrides) :
    ∀ bs : List (String × Override), EveryReferenceOf p bs
  | [] => trivial
  | (_, .value _) :: rest => everyReferenceOf_of_forall h rest
  | (_, .element e) :: rest =>
    ⟨e.everyReference_of_forall h, everyReferenceOf_of_forall h rest⟩

end

/-- What holds of all references holds of those in a message. -/
theorem Message.everyReference_of_forall
    (h : ∀ resource path overrides, p resource path overrides) (m : Message) :
    m.EveryReference p := by
  cases m with
  | pattern elements => exact everyReferenceIn_of_forall h elements
  | select s =>
      exact ⟨fun selector _ => selector.value.everyReference_of_forall h,
        fun c _ => everyReferenceIn_of_forall h c.pattern⟩

theorem everyReferenceIn_iff {es : List Element} :
    EveryReferenceIn p es ↔ ∀ e ∈ es, e.EveryReference p := by
  induction es with
  | nil => simp [EveryReferenceIn]
  | cons e es ih => simp [EveryReferenceIn, ih]

theorem everyReferenceOf_iff {bs : List (String × Override)} :
    EveryReferenceOf p bs ↔ ∀ name e, (name, .element e) ∈ bs → e.EveryReference p := by
  induction bs with
  | nil => simp [EveryReferenceOf]
  | cons b bs ih =>
      obtain ⟨name, o⟩ := b
      cases o <;> simp [EveryReferenceOf, ih, or_imp, forall_and]

-- ====================================================== two properties

/-- A reference that has two properties. -/
def OfReference.and (p q : OfReference) : OfReference := fun resource path overrides =>
  p resource path overrides ∧ q resource path overrides

variable {q : OfReference}

mutual

theorem Element.everyReference_and :
    ∀ e : Element, e.EveryReference p → e.EveryReference q → e.EveryReference (p.and q)
  | .literal _, _, _ => trivial
  | .variable path, hp, hq => everyReferenceIn_and path hp hq
  | .call _ args _, hp, hq => everyReferenceIn_and args hp hq
  | .message _ path none, hp, hq => ⟨⟨hp.1, hq.1⟩, everyReferenceIn_and path hp.2 hq.2⟩
  | .message _ path (some overrides), hp, hq =>
    ⟨⟨hp.1, hq.1⟩, everyReferenceIn_and path hp.2.1 hq.2.1,
      everyReferenceOf_and overrides hp.2.2 hq.2.2⟩

theorem everyReferenceIn_and :
    ∀ es : List Element, EveryReferenceIn p es → EveryReferenceIn q es →
      EveryReferenceIn (p.and q) es
  | [], _, _ => trivial
  | e :: rest, hp, hq =>
    ⟨e.everyReference_and hp.1 hq.1, everyReferenceIn_and rest hp.2 hq.2⟩

theorem everyReferenceOf_and :
    ∀ bs : List (String × Override), EveryReferenceOf p bs → EveryReferenceOf q bs →
      EveryReferenceOf (p.and q) bs
  | [], _, _ => trivial
  | (_, .value _) :: rest, hp, hq => everyReferenceOf_and rest hp hq
  | (_, .element e) :: rest, hp, hq =>
    ⟨e.everyReference_and hp.1 hq.1, everyReferenceOf_and rest hp.2 hq.2⟩

end

/-- Of two properties that all references of a message have, each has
both. -/
theorem Message.everyReference_and {m : Message} (hp : m.EveryReference p)
    (hq : m.EveryReference q) : m.EveryReference (p.and q) := by
  cases m with
  | pattern elements => exact everyReferenceIn_and elements hp hq
  | select s =>
      exact ⟨fun selector hs =>
          selector.value.everyReference_and (hp.1 selector hs) (hq.1 selector hs),
        fun c hc => everyReferenceIn_and c.pattern (hp.2 c hc) (hq.2 c hc)⟩

end MessageCatalog
