/-
Where references stand.

A reference may stand in the pattern of a message or of one of its cases,
in a selector, or deeper: among the segments of a path, among arguments,
or in an element that is bound to a variable. Steps lead there from the
message, one for each level (`Message.at?`). The same reference may stand
at several places, so what is counted are the places.

All references can be listed with the steps that lead to them
(`Message.references`, `Resource.references`). The list has those that the
steps lead to and no others (`Resource.mem_references_iff`), and it has
each place once (`Resource.nodup_references`).

Both follow, level by level, from the same facts about one step: the
elements one step away are those that are listed (`Element.mem_children`),
and no step is listed twice (`Element.nodup_children`).
-/
import Mathlib.Data.List.Sigma
import MessageCatalog.Proofs.Listing

namespace MessageCatalog

/-- A reference to a message. -/
structure Reference where
  resource : Option String
  path : List Element
  overrides : Option (List (String × Override))

/-- A step from a message to an element, or from an element into it.
Elements of a pattern are counted from its beginning, those of a case
within the case, and overrides in the order of their names. -/
inductive Step where
  | element (index : Nat)
  | selector (index : Nat)
  | ofCase (index element : Nat)
  | segment (index : Nat)
  | argument (index : Nat)
  | binding (index : Nat)
deriving DecidableEq, Repr

-- ============================================================ one step

/-- The elements at successive places, some of which may hold none, with
the steps to them. -/
def numbered (step : Nat → Step) (places : List (Option Element)) : List (Step × Element) :=
  places.zipIdx.filterMap fun p => p.1.map fun e => (step p.2, e)

/-- The element that an override binds, if it binds one. -/
def Override.element? : Override → Option Element
  | .element e => some e
  | .value _ => none

/-- The elements that overrides bind, one place for each override. -/
def boundElements (overrides : Option (List (String × Override))) : List (Option Element) :=
  (overrides.getD []).map fun b => b.2.element?

namespace Element

/-- The reference that an element is, if it is one. -/
def reference? : Element → Option Reference
  | .message resource path overrides => some ⟨resource, path, overrides⟩
  | _ => none

/-- The element one step into an element. -/
def child? : Element → Step → Option Element
  | .variable path, .segment i => path[i]?
  | .call _ args _, .argument i => args[i]?
  | .message _ path _, .segment i => path[i]?
  | .message _ _ overrides, .binding i => (boundElements overrides)[i]?.join
  | _, _ => none

/-- The elements one step into an element, with these steps. -/
def children : Element → List (Step × Element)
  | .literal _ => []
  | .variable path => numbered .segment (path.map some)
  | .call _ args _ => numbered .argument (args.map some)
  | .message _ path overrides =>
    numbered .segment (path.map some) ++ numbered .binding (boundElements overrides)

end Element

namespace Message

/-- The element one step into a message. -/
def child? : Message → Step → Option Element
  | .pattern p, .element i => p[i]?
  | .select s, .selector i => s.selectors[i]?.map Selector.value
  | .select s, .ofCase i j => s.cases[i]?.bind (·.pattern[j]?)
  | _, _ => none

/-- The elements one step into a message, with these steps. -/
def children : Message → List (Step × Element)
  | .pattern p => numbered .element (p.map some)
  | .select s =>
    numbered .selector (s.selectors.map fun sel => some sel.value)
      ++ s.cases.zipIdx.flatMap fun p => numbered (.ofCase p.2) (p.1.pattern.map some)

end Message

variable {step : Nat → Step} {places : List (Option Element)} {s : Step} {e : Element}

theorem mem_numbered :
    (s, e) ∈ numbered step places ↔ ∃ i, s = step i ∧ places[i]? = some (some e) := by
  simp only [numbered, List.mem_filterMap, Prod.exists, List.mem_zipIdx_iff_getElem?,
    Option.map_eq_some_iff, Prod.mk.injEq]
  constructor
  · rintro ⟨_, i, hplace, _, rfl, rfl, rfl⟩
    exact ⟨i, rfl, hplace⟩
  · rintro ⟨i, rfl, hplace⟩
    exact ⟨some e, i, hplace, e, rfl, rfl, rfl⟩

theorem nodup_numbered (hstep : Function.Injective step) (places : List (Option Element)) :
    ((numbered step places).map Prod.fst).Nodup := by
  unfold numbered
  refine List.pairwise_map.mpr (List.pairwise_filterMap.mpr ?_)
  refine (List.pairwise_map.mp (List.nodup_zipIdx_map_snd places)).imp fun {p q} hne => ?_
  intro b hb b' hb' heq
  obtain ⟨e, -, rfl⟩ := Option.map_eq_some_iff.mp hb
  obtain ⟨e', -, rfl⟩ := Option.map_eq_some_iff.mp hb'
  exact hne (hstep heq)

/-- Elements at successive places stay in order. -/
theorem numbered_elements (step : Nat → Step) (es : List Element) :
    (numbered step (es.map some)).map Prod.snd = es := by
  have hplaces : ∀ places : List (Option Element),
      (numbered step places).map Prod.snd = (places.zipIdx.map Prod.fst).filterMap id := by
    intro places
    unfold numbered
    rw [List.map_filterMap, List.filterMap_map]
    refine List.filterMap_congr fun p _ => ?_
    obtain ⟨o, i⟩ := p
    cases o <;> rfl
  rw [hplaces, List.zipIdx_map_fst, List.filterMap_map]
  exact List.filterMap_some

/-- The steps that are listed for successive places are steps to these. -/
theorem step_of_mem_numbered (h : s ∈ (numbered step places).map Prod.fst) : ∃ i, s = step i := by
  obtain ⟨⟨_, e⟩, hmem, rfl⟩ := List.mem_map.mp h
  obtain ⟨i, hi, -⟩ := mem_numbered.mp hmem
  exact ⟨i, hi⟩

namespace Element

theorem mem_children : ∀ {e : Element} {c : Element},
    (s, c) ∈ e.children ↔ e.child? s = some c
  | .literal _, _ => by simp [children, child?]
  | .variable _, _ => by cases s <;> simp [children, child?, mem_numbered]
  | .call .., _ => by cases s <;> simp [children, child?, mem_numbered]
  | .message .., _ => by
      cases s <;> simp [children, child?, mem_numbered, Option.join_eq_some_iff]

theorem nodup_children : ∀ e : Element, (e.children.map Prod.fst).Nodup
  | .literal _ => List.nodup_nil
  | .variable _ => nodup_numbered (fun _ _ => Step.segment.inj) _
  | .call .. => nodup_numbered (fun _ _ => Step.argument.inj) _
  | .message _ path overrides => by
      rw [children, List.map_append]
      refine (nodup_numbered (fun _ _ => Step.segment.inj) _).append
        (nodup_numbered (fun _ _ => Step.binding.inj) _) fun s hsegment hbinding => ?_
      obtain ⟨i, rfl⟩ := step_of_mem_numbered hsegment
      obtain ⟨j, hj⟩ := step_of_mem_numbered hbinding
      cases hj

end Element

namespace Message

theorem mem_children : ∀ {m : Message} {c : Element},
    (s, c) ∈ m.children ↔ m.child? s = some c
  | .pattern _, _ => by cases s <;> simp [children, child?, mem_numbered]
  | .select _, _ => by
      cases s <;>
        simp [children, child?, mem_numbered, List.mem_zipIdx_iff_getElem?,
          Option.bind_eq_some_iff]

theorem nodup_children : ∀ m : Message, (m.children.map Prod.fst).Nodup
  | .pattern _ => nodup_numbered (fun _ _ => Step.element.inj) _
  | .select s => by
      rw [children, List.map_append, List.map_flatMap]
      refine (nodup_numbered (fun _ _ => Step.selector.inj) _).append
        (List.nodup_flatMap.mpr ⟨fun p _ => ?_, ?_⟩) fun step hselector hcase => ?_
      · exact nodup_numbered (fun _ _ heq => (Step.ofCase.inj heq).2) _
      · refine (List.pairwise_map.mp (List.nodup_zipIdx_map_snd s.cases)).imp fun hne step hp hq => ?_
        obtain ⟨i, rfl⟩ := step_of_mem_numbered hp
        obtain ⟨j, hj⟩ := step_of_mem_numbered hq
        exact hne (Step.ofCase.inj hj).1
      · obtain ⟨i, rfl⟩ := step_of_mem_numbered hselector
        obtain ⟨p, -, hp⟩ := List.mem_flatMap.mp hcase
        obtain ⟨j, hj⟩ := step_of_mem_numbered hp
        cases hj

end Message

-- ============================================================ all steps

/-- The element to which steps lead from an element. -/
def Element.at? : Element → List Step → Option Element
  | e, [] => some e
  | e, s :: rest => (e.child? s).bind (·.at? rest)

/-- The element to which steps lead from a message. -/
def Message.at? : Message → List Step → Option Element
  | _, [] => none
  | m, s :: rest => (m.child? s).bind (·.at? rest)

/-- A reference with one more step before those that lead to it. -/
def Step.before (s : Step) (q : List Step × Reference) : List Step × Reference := (s :: q.1, q.2)

mutual

/-- All references in an element, with the steps that lead to them. Those
within a reference come before it. -/
def Element.references : Element → List (List Step × Reference)
  | .literal _ => []
  | .variable path => referencesIn .segment 0 path
  | .call _ args _ => referencesIn .argument 0 args
  | .message resource path none =>
    referencesIn .segment 0 path ++ [([], ⟨resource, path, none⟩)]
  | .message resource path (some overrides) =>
    referencesIn .segment 0 path ++ referencesOf 0 overrides
      ++ [([], ⟨resource, path, some overrides⟩)]

/-- All references in elements that are counted from an index on. -/
def referencesIn (step : Nat → Step) (index : Nat) :
    List Element → List (List Step × Reference)
  | [] => []
  | e :: rest => e.references.map (step index).before ++ referencesIn step (index + 1) rest

/-- All references in the elements of overrides that are counted from an
index on. -/
def referencesOf (index : Nat) : List (String × Override) → List (List Step × Reference)
  | [] => []
  | (_, .element e) :: rest =>
    e.references.map (Step.binding index).before ++ referencesOf (index + 1) rest
  | (_, .value _) :: rest => referencesOf (index + 1) rest

end

/-- All references in elements that are one step away. -/
def referencesBelow (children : List (Step × Element)) : List (List Step × Reference) :=
  children.flatMap fun c => c.2.references.map c.1.before

/-- All references in a message, with the steps that lead to them. -/
def Message.references (m : Message) : List (List Step × Reference) := referencesBelow m.children

theorem referencesIn_eq (step : Nat → Step) (es : List Element) :
    referencesIn step 0 es = referencesBelow (numbered step (es.map some)) := by
  have hfrom : ∀ index, referencesIn step index es = referencesBelow
      (((es.map some).zipIdx index).filterMap fun p => p.1.map fun e => (step p.2, e)) := by
    induction es with
    | nil => exact fun _ => rfl
    | cons e es ih =>
        intro index
        rw [referencesIn, ih]
        rfl
  exact hfrom 0

theorem referencesOf_eq (bs : List (String × Override)) :
    referencesOf 0 bs = referencesBelow (numbered .binding (boundElements (some bs))) := by
  have hfrom : ∀ index, referencesOf index bs = referencesBelow
      (((boundElements (some bs)).zipIdx index).filterMap fun p =>
        p.1.map fun e => (Step.binding p.2, e)) := by
    induction bs with
    | nil => exact fun _ => rfl
    | cons b bs ih =>
        intro index
        obtain ⟨name, o⟩ := b
        cases o with
        | element e =>
            rw [referencesOf, ih]
            rfl
        | value v =>
            rw [referencesOf, ih]
            rfl
  exact hfrom 0

/-- The references in an element are those below it, and it itself if it
is one. -/
theorem Element.references_eq : ∀ e : Element,
    e.references = referencesBelow e.children ++ (e.reference?.map fun ref => ([], ref)).toList
  | .literal _ => rfl
  | .variable path => by
      rw [references, referencesIn_eq]
      exact (List.append_nil _).symm
  | .call _ args _ => by
      rw [references, referencesIn_eq]
      exact (List.append_nil _).symm
  | .message resource path overrides => by
      cases overrides with
      | none =>
          rw [references, referencesIn_eq]
          show _ = referencesBelow (_ ++ []) ++ _
          rw [List.append_nil]
          rfl
      | some bs =>
          rw [references, referencesIn_eq, referencesOf_eq]
          unfold referencesBelow
          rw [← List.flatMap_append]
          rfl

variable {steps : List Step} {ref : Reference} {children : List (Step × Element)}

theorem mem_referencesBelow :
    (steps, ref) ∈ referencesBelow children ↔
      ∃ s rest c, steps = s :: rest ∧ (s, c) ∈ children ∧ (rest, ref) ∈ c.references := by
  simp only [referencesBelow, List.mem_flatMap, List.mem_map, Step.before, Prod.exists,
    Prod.mk.injEq]
  constructor
  · rintro ⟨s, c, hc, rest, _, hmem, rfl, rfl⟩
    exact ⟨s, rest, c, rfl, hc, hmem⟩
  · rintro ⟨s, rest, c, rfl, hc, hmem⟩
    exact ⟨s, c, hc, rest, ref, hmem, rfl, rfl⟩

/-- If no step is listed twice, and below each no place is, no place is. -/
theorem nodup_referencesBelow (hsteps : (children.map Prod.fst).Nodup)
    (h : ∀ c ∈ children, (c.2.references.map Prod.fst).Nodup) :
    ((referencesBelow children).map Prod.fst).Nodup := by
  have hbefore : ∀ c : Step × Element, (c.2.references.map c.1.before).map Prod.fst
      = (c.2.references.map Prod.fst).map (c.1 :: ·) := by
    intro c
    rw [List.map_map, List.map_map]
    rfl
  unfold referencesBelow
  rw [List.map_flatMap, List.nodup_flatMap]
  refine ⟨fun c hc => ?_, (List.pairwise_map.mp hsteps).imp fun {c d} hne place hc hd => ?_⟩
  · rw [hbefore]
    exact (h c hc).map fun a b heq => (List.cons.inj heq).2
  · simp only [hbefore] at hc hd
    obtain ⟨rest, -, rfl⟩ := List.mem_map.mp hc
    obtain ⟨rest', -, heq⟩ := List.mem_map.mp hd
    exact hne (List.cons.inj heq).1.symm

namespace Element

/-- The references of an element are those to which steps lead. The
induction is on the steps, each of which leaves one element. -/
theorem mem_references_iff {e : Element} :
    (steps, ref) ∈ e.references ↔ (e.at? steps).bind reference? = some ref := by
  induction steps generalizing e with
  | nil =>
      rw [references_eq]
      simp [mem_referencesBelow, at?]
  | cons s rest ih =>
      rw [references_eq, at?, Option.bind_assoc]
      simp [mem_referencesBelow, mem_children, ih, Option.bind_eq_some_iff]

/-- No place in an element is listed twice if none in its children is. -/
theorem nodup_references_of_children {e : Element}
    (h : ∀ c ∈ e.children, (c.2.references.map Prod.fst).Nodup) :
    (e.references.map Prod.fst).Nodup := by
  rw [references_eq, List.map_append]
  refine (nodup_referencesBelow e.nodup_children h).append ?_ fun place hbelow hself => ?_
  · cases e.reference? with
    | none => exact List.nodup_nil
    | some ref => exact List.nodup_singleton _
  · obtain ⟨⟨_, ref⟩, hmem, rfl⟩ := List.mem_map.mp hbelow
    obtain ⟨s, rest, c, rfl, -, -⟩ := mem_referencesBelow.mp hmem
    cases hreference : e.reference? with
    | none => simp [hreference] at hself
    | some ref => simp [hreference] at hself

theorem mem_of_mem_numbered {step : Nat → Step} {es : List Element} {c : Step × Element}
    (h : c ∈ numbered step (es.map some)) : c.2 ∈ es := by
  obtain ⟨i, -, hplace⟩ := mem_numbered.mp h
  simpa using List.mem_of_getElem? hplace

mutual

/-- No place in an element is listed twice. -/
theorem nodup_references : ∀ e : Element, (e.references.map Prod.fst).Nodup
  | .literal _ => List.nodup_nil
  | .variable path => nodup_references_of_children fun c hc =>
      nodup_each path c.2 (mem_of_mem_numbered hc)
  | .call _ args _ => nodup_references_of_children fun c hc =>
      nodup_each args c.2 (mem_of_mem_numbered hc)
  | .message _ path none => nodup_references_of_children fun c hc => by
      rcases List.mem_append.mp hc with hc | hc
      · exact nodup_each path c.2 (mem_of_mem_numbered hc)
      · exact nomatch hc
  | .message _ path (some bs) => nodup_references_of_children fun c hc => by
      rcases List.mem_append.mp hc with hc | hc
      · exact nodup_each path c.2 (mem_of_mem_numbered hc)
      · obtain ⟨i, -, hplace⟩ := mem_numbered.mp hc
        exact nodup_bound bs c.2 (List.mem_of_getElem? hplace)

theorem nodup_each : ∀ es : List Element, ∀ e ∈ es, (e.references.map Prod.fst).Nodup
  | [] => nofun
  | e :: rest => List.forall_mem_cons.mpr ⟨nodup_references e, nodup_each rest⟩

theorem nodup_bound : ∀ bs : List (String × Override), ∀ e, some e ∈ boundElements (some bs) →
    (e.references.map Prod.fst).Nodup
  | [] => nofun
  | (_, .element e) :: rest => fun e' h => by
      rcases List.mem_cons.mp h with h | h
      · rw [Option.some.inj h]
        exact nodup_references e
      · exact nodup_bound rest e' h
  | (_, .value _) :: rest => fun e' h => by
      rcases List.mem_cons.mp h with h | h
      · cases h
      · exact nodup_bound rest e' h

end

end Element

namespace Message

/-- The references of a message are those to which steps lead. -/
theorem mem_references_iff {m : Message} :
    (steps, ref) ∈ m.references ↔ (m.at? steps).bind Element.reference? = some ref := by
  cases steps with
  | nil => simp [references, mem_referencesBelow, at?]
  | cons s rest =>
      rw [at?, Option.bind_assoc]
      simp [references, mem_referencesBelow, mem_children, Element.mem_references_iff,
        Option.bind_eq_some_iff]

/-- No place in a message is listed twice. -/
theorem nodup_references (m : Message) : (m.references.map Prod.fst).Nodup :=
  nodup_referencesBelow m.nodup_children fun c _ => c.2.nodup_references

end Message

-- ============================================================ resources

/-- A place in a resource: a message, and the steps from there. -/
structure Occurrence where
  message : List String
  steps : List Step
deriving DecidableEq, Repr

namespace Resource

/-- The reference at a place. -/
def reference? (r : Resource) (o : Occurrence) : Option Reference :=
  ((r.message? o.message).bind (·.at? o.steps)).bind Element.reference?

/-- All references in the messages of a resource, with their places. -/
def references (r : Resource) : List (Occurrence × Reference) :=
  r.messages.flatMap fun q => q.2.references.map fun p => (⟨q.1, p.1⟩, p.2)

variable {r : Resource}

/-- The references that are listed are those at places. -/
theorem mem_references_iff (h : r.Ordered) {o : Occurrence} :
    (o, ref) ∈ r.references ↔ r.reference? o = some ref := by
  obtain ⟨path, steps⟩ := o
  simp only [references, reference?, List.mem_flatMap, List.mem_map, Prod.exists, Prod.mk.injEq,
    Occurrence.mk.injEq, Option.bind_assoc, Option.bind_eq_some_iff]
  constructor
  · rintro ⟨_, m, hm, _, _, hmem, ⟨rfl, rfl⟩, rfl⟩
    exact ⟨m, (mem_messages_iff h).mp hm,
      Option.bind_eq_some_iff.mp (Message.mem_references_iff.mp hmem)⟩
  · rintro ⟨m, hm, hat⟩
    exact ⟨path, m, mem_messages hm, steps, ref,
      Message.mem_references_iff.mpr (Option.bind_eq_some_iff.mpr hat), ⟨rfl, rfl⟩, rfl⟩

/-- No place is listed twice. -/
theorem nodup_references (h : r.Ordered) : (r.references.map Prod.fst).Nodup := by
  unfold references
  rw [List.map_flatMap, List.nodup_flatMap]
  refine ⟨fun q _ => ?_, (List.pairwise_map.mp (nodup_paths h)).imp fun {q q'} hne o hq hq' => ?_⟩
  · have hplaces : (q.2.references.map fun p => ((⟨q.1, p.1⟩ : Occurrence), p.2)).map Prod.fst
        = (q.2.references.map Prod.fst).map (Occurrence.mk q.1) := by
      rw [List.map_map, List.map_map]
      rfl
    rw [hplaces]
    exact q.2.nodup_references.map fun a b heq => (Occurrence.mk.inj heq).2
  · -- Places in different messages differ in these.
    simp only [List.map_map, List.mem_map, Function.comp_apply] at hq hq'
    obtain ⟨p, -, rfl⟩ := hq
    obtain ⟨p', -, heq⟩ := hq'
    exact hne (Occurrence.mk.inj heq).1.symm

end Resource

end MessageCatalog
