/-
References that the linter warns of.

The linter goes through the elements of a message level by level, and so
comes to every place at which a reference stands, once
(`elementFindings_eq`). What it says there depends on the reference alone:
it warns of those whose path is all literals, which stay within the
resource and name no message of it.

These are the references that find nothing when they are evaluated in the
resource: the segments of such a path have the same texts wherever they
are evaluated (`dangling_iff`). So the warnings and the places of these
references correspond one to one (`unresolved_warnings_exact`).
-/
import MessageCatalog.Proofs.Lint.References
import MessageCatalog.Proofs.Occurrences

namespace MessageCatalog

namespace Lint

variable {r : Resource}

-- ============================================================ findings

/-- Whether a finding is about a reference. -/
def Finding.isUnresolved : Finding → Bool
  | .unresolvedReference _ => true
  | _ => false

/-- The findings on a reference, less those on what stands within it. -/
def findingsOn (r : Resource) (ref : Reference) : List Finding :=
  referenceFinding r ref.resource ref.path

/-- The findings on the references at places. -/
def findingsAt (r : Resource) (qs : List (List Step × Reference)) : List Finding :=
  qs.flatMap fun q => findingsOn r q.2

theorem findingsAt_append (ps qs : List (List Step × Reference)) :
    findingsAt r (ps ++ qs) = findingsAt r ps ++ findingsAt r qs := List.flatMap_append

theorem findingsAt_before (s : Step) (qs : List (List Step × Reference)) :
    findingsAt r (qs.map s.before) = findingsAt r qs := List.flatMap_map ..

theorem findingsAt_self (ref : Reference) :
    findingsAt r [([], ref)] = referenceFinding r ref.resource ref.path := List.append_nil _

mutual

/-- The findings on an element are those on the references in it. -/
theorem elementFindings_eq : ∀ e : Element, elementFindings r e = findingsAt r e.references
  | .literal _ => rfl
  | .variable path => by
      rw [elementFindings, Element.references, elementsFindings_eq .segment 0 path]
  | .call _ args _ => by
      rw [elementFindings, Element.references, elementsFindings_eq .argument 0 args]
  | .message resource path none => by
      rw [elementFindings, Element.references, findingsAt_append, findingsAt_self,
        elementsFindings_eq .segment 0 path]
  | .message resource path (some overrides) => by
      rw [elementFindings, Element.references, findingsAt_append, findingsAt_append,
        findingsAt_self, elementsFindings_eq .segment 0 path, overridesFindings_eq 0 overrides]

theorem elementsFindings_eq (step : Nat → Step) (index : Nat) : ∀ es : List Element,
    elementsFindings r es = findingsAt r (referencesIn step index es)
  | [] => rfl
  | e :: rest => by
      rw [elementsFindings, referencesIn, findingsAt_append, findingsAt_before,
        elementFindings_eq e, elementsFindings_eq step (index + 1) rest]

theorem overridesFindings_eq (index : Nat) : ∀ bs : List (String × Override),
    overridesFindings r bs = findingsAt r (referencesOf index bs)
  | [] => rfl
  | (_, .element e) :: rest => by
      rw [overridesFindings, referencesOf, findingsAt_append, findingsAt_before,
        elementFindings_eq e, overridesFindings_eq (index + 1) rest]
  | (_, .value _) :: rest => by
      rw [overridesFindings, referencesOf, overridesFindings_eq (index + 1) rest]

end

theorem findingsAt_below (children : List (Step × Element)) :
    findingsAt r (referencesBelow children)
      = children.flatMap fun c => elementFindings r c.2 := by
  unfold findingsAt referencesBelow
  rw [List.flatMap_assoc]
  refine List.flatMap_congr fun c _ => ?_
  rw [elementFindings_eq]
  exact findingsAt_before c.1 _

theorem unresolved_findingsAt (qs : List (List Step × Reference)) :
    (findingsAt r qs).filter Finding.isUnresolved = findingsAt r qs := by
  refine List.filter_eq_self.mpr fun f hf => ?_
  obtain ⟨q, -, hf⟩ := List.mem_flatMap.mp hf
  unfold findingsOn referenceFinding at hf
  split at hf
  · split at hf
    · rw [List.mem_singleton.mp hf]
      rfl
    · exact nomatch hf
  · exact nomatch hf

theorem elementsFindings_flatMap (es : List Element) :
    elementsFindings r es = es.flatMap (elementFindings r) := by
  induction es with
  | nil => rfl
  | cons e rest ih => rw [elementsFindings, ih, List.flatMap_cons]

/-- The findings on elements at successive places. -/
theorem findingsAt_numbered (step : Nat → Step) (es : List Element) :
    findingsAt r (referencesBelow (numbered step (es.map some))) = elementsFindings r es := by
  rw [findingsAt_below, elementsFindings_flatMap]
  conv_rhs => rw [← numbered_elements step es, List.flatMap_map]

theorem findingsAt_select (s : Selection) :
    findingsAt r (Message.select s).references
      = (s.selectors.flatMap fun sel => elementFindings r sel.value)
        ++ s.cases.flatMap fun c => elementsFindings r c.pattern := by
  have hselectors : findingsAt r (referencesBelow
        (numbered .selector (s.selectors.map fun sel => some sel.value)))
      = s.selectors.flatMap fun sel => elementFindings r sel.value := by
    have hnumbered := findingsAt_numbered (r := r) .selector (s.selectors.map Selector.value)
    rw [List.map_map, elementsFindings_flatMap, List.flatMap_map] at hnumbered
    exact hnumbered
  have hcases : findingsAt r (referencesBelow
        (s.cases.zipIdx.flatMap fun p => numbered (.ofCase p.2) (p.1.pattern.map some)))
      = s.cases.flatMap fun c => elementsFindings r c.pattern := by
    rw [findingsAt_below, List.flatMap_assoc]
    conv_rhs => rw [← List.zipIdx_map_fst 0 s.cases, List.flatMap_map]
    refine List.flatMap_congr fun p _ => ?_
    rw [← findingsAt_below, findingsAt_numbered]
  unfold Message.references Message.children referencesBelow
  rw [List.flatMap_append, findingsAt_append]
  exact congrArg₂ _ hselectors hcases

/-- The findings on references of a message are those on the references in
it. -/
theorem unresolved_messageFindings : ∀ m : Message,
    (messageFindings r m).filter Finding.isUnresolved = findingsAt r m.references
  | .pattern p => by
      rw [messageFindings, ← findingsAt_numbered .element p]
      exact unresolved_findingsAt _
  | .select s => by
      have hnone : (selectionFindings s).filter Finding.isUnresolved = [] := by
        refine List.filter_eq_nil_iff.mpr fun f hf hunresolved => ?_
        cases f with
        | unresolvedReference target => exact selectionFindings_clean s target hf
        | _ => cases hunresolved
      rw [messageFindings, List.append_assoc, List.filter_append, hnone, List.nil_append,
        ← findingsAt_select, unresolved_findingsAt]

/-- The warnings about references are those on the references of the
resource, each under the dotted path of its message. -/
theorem unresolved_lint (r : Resource) :
    r.lint.filter (fun w => w.finding.isUnresolved)
      = r.references.flatMap fun q => (findingsOn r q.2).map (Warning.mk (dotted q.1.message)) := by
  unfold Resource.lint Resource.references
  rw [List.filter_flatMap, List.flatMap_assoc]
  refine List.flatMap_congr fun q _ => ?_
  obtain ⟨path, m⟩ := q
  show ((messageFindings r m).map (Warning.mk (dotted path))).filter _ = _
  rw [List.filter_map]
  show ((messageFindings r m).filter Finding.isUnresolved).map _ = _
  rw [unresolved_messageFindings, findingsAt, List.map_flatMap, List.flatMap_map]

end Lint

-- =========================================================== references

open Resolve

/-- A reference that finds nothing when it is evaluated: its path is all
literals, it names no other resource, and there is no message at the path
that its segments lead to, whatever other references stand for. -/
structure Reference.Dangling (r : Resource) (ctx : Context) (ref : Reference) : Prop where
  closed : Lint.Closed r ref.resource ref.path ref.overrides
  missing : ∀ refer : Target → Except FormatError String, ∃ segments,
    values refer ctx ref.path = .ok segments ∧
      ∀ overrides, (target ctx ref.resource segments overrides).message = none

namespace Lint

variable {c : Catalog} {r : Resource} {ctx : Context} {ref : Reference}

theorem staticPath_eq_some {path : List Element} {names : List String}
    (h : staticPath? path = some names) :
    ∃ ls : List Literal, path = ls.map Element.literal ∧ names = ls.map Literal.text := by
  induction path generalizing names with
  | nil =>
      cases h
      exact ⟨[], rfl, rfl⟩
  | cons e rest ih =>
      cases e with
      | literal l =>
          obtain ⟨names', hrest, rfl⟩ := Option.map_eq_some_iff.mp h
          obtain ⟨ls, rfl, rfl⟩ := ih hrest
          exact ⟨l :: ls, rfl, rfl⟩
      | _ => cases h

/-- A reference dangles exactly if its path is all literals, it stays within
the resource, and there is no message at the texts of the literals. -/
theorem dangling_iff (hstored : c.resource? r.id = some r) (hlookup : ctx.messages = c.lookup)
    (hctx : ctx.resourceId = some r.id) :
    ref.Dangling r ctx ↔ ∃ names, staticPath? ref.path = some names ∧
      staysWithin r ref.resource = true ∧ r.message? names = none := by
  constructor
  · rintro ⟨⟨hliterals, hwithin⟩, hmissing⟩
    obtain ⟨names, hstatic⟩ := staticPath_of_literals hliterals
    obtain ⟨segments, htexts, hvalues⟩ := values_static hstatic
    let refer : Target → Except FormatError String := fun _ => .ok ""
    obtain ⟨segments', hvalues', hnone⟩ := hmissing refer
    obtain rfl : segments = segments' :=
      Except.ok.inj ((hvalues refer ctx).symm.trans hvalues')
    refine ⟨names, hstatic, staysWithin_iff.mpr hwithin, ?_⟩
    rw [← htexts, ← message_target hstored hlookup hctx hwithin segments none]
    exact hnone none
  · rintro ⟨names, hstatic, hstays, hnone⟩
    have hwithin := staysWithin_iff.mp hstays
    obtain ⟨ls, hpath, -⟩ := staticPath_eq_some hstatic
    obtain ⟨segments, htexts, hvalues⟩ := values_static hstatic
    refine ⟨⟨fun e he => ?_, hwithin⟩, fun refer => ⟨segments, hvalues refer ctx, fun bs => ?_⟩⟩
    · rw [hpath] at he
      obtain ⟨l, -, rfl⟩ := List.mem_map.mp he
      exact ⟨l, rfl⟩
    · rw [message_target hstored hlookup hctx hwithin, htexts, hnone]

/-- There is something to say about a reference exactly if it dangles. Then
the finding has the dotted texts of the literals in its path. -/
theorem findingsOn_cases (hstored : c.resource? r.id = some r) (hlookup : ctx.messages = c.lookup)
    (hctx : ctx.resourceId = some r.id) (ref : Reference) :
    (¬ref.Dangling r ctx ∧ findingsOn r ref = []) ∨
      (ref.Dangling r ctx ∧ ∃ ls : List Literal, ref.path = ls.map Element.literal ∧
        findingsOn r ref = [.unresolvedReference (dotted (ls.map Literal.text))]) := by
  rw [dangling_iff hstored hlookup hctx]
  unfold findingsOn referenceFinding
  cases hstatic : staticPath? ref.path with
  | none => exact .inl ⟨by simp, rfl⟩
  | some names =>
      obtain ⟨ls, hpath, rfl⟩ := staticPath_eq_some hstatic
      by_cases hmissing : staysWithin r ref.resource = true ∧
          r.message? (ls.map Literal.text) = none
      · exact .inr ⟨⟨_, rfl, hmissing⟩, ls, hpath, by simp [hmissing]⟩
      · refine .inl ⟨fun ⟨names, hnames, hnone⟩ => ?_, by simpa using hmissing⟩
        cases hnames
        exact hmissing hnone

-- ============================================================= warnings

/-- A warning is about the reference at a place: it has the dotted path of
the message there, and the dotted path of literals of the reference. -/
def Reports (r : Resource) (o : Occurrence) (w : Warning) : Prop :=
  w.message = dotted o.message ∧ ∃ (ref : Reference) (ls : List Literal),
    r.reference? o = some ref ∧ ref.path = ls.map Element.literal ∧
    w.finding = .unresolvedReference (dotted (ls.map Literal.text))

/-- Of references, those that dangle have one warning each, in order. The
induction is on the references, of which each adds a place and a warning or
neither. -/
theorem forall₂_reports (hstored : c.resource? r.id = some r) (hlookup : ctx.messages = c.lookup)
    (hctx : ctx.resourceId = some r.id) (qs : List (Occurrence × Reference))
    (hqs : ∀ q ∈ qs, r.reference? q.1 = some q.2) :
    ∃ places : List (Occurrence × Reference), places.Sublist qs ∧
      (∀ q, q ∈ places ↔ q ∈ qs ∧ q.2.Dangling r ctx) ∧
      List.Forall₂ (Reports r) (places.map Prod.fst)
        (qs.flatMap fun q => (findingsOn r q.2).map (Warning.mk (dotted q.1.message))) := by
  induction qs with
  | nil => exact ⟨[], .slnil, by simp, .nil⟩
  | cons q rest ih =>
      obtain ⟨hself, hrest⟩ := List.forall_mem_cons.mp hqs
      obtain ⟨places, hsublist, hmem, hreports⟩ := ih hrest
      rw [List.flatMap_cons]
      obtain ⟨hfine, hnone⟩ | ⟨hdangling, ls, hpath, hone⟩ :=
        findingsOn_cases hstored hlookup hctx q.2
      · refine ⟨places, hsublist.cons q, fun p => ?_, ?_⟩
        · rw [hmem, List.mem_cons, or_and_right]
          refine (or_iff_right ?_).symm
          rintro ⟨rfl, hdangling⟩
          exact hfine hdangling
        · rw [hnone]
          exact hreports
      · refine ⟨q :: places, hsublist.cons_cons q, fun p => ?_, ?_⟩
        · rw [List.mem_cons, hmem, List.mem_cons, or_and_right]
          refine or_congr_left (iff_self_and.mpr ?_)
          rintro rfl
          exact hdangling
        · rw [hone]
          exact .cons ⟨rfl, q.2, ls, hself, hpath, rfl⟩ hreports

/-- The warnings about references are exact. They correspond one to one to
the places in the messages of the resource at which there is a reference
that is all literals, stays within the resource, and finds no message when
it is evaluated in the resource. Each warning has the dotted path of the
message, and that of the reference. -/
theorem unresolved_warnings_exact (h : r.Ordered) (hstored : c.resource? r.id = some r)
    (hlookup : ctx.messages = c.lookup) (hctx : ctx.resourceId = some r.id) :
    ∃ places : List Occurrence, places.Nodup ∧
      (∀ o, o ∈ places ↔ ∃ ref, r.reference? o = some ref ∧ ref.Dangling r ctx) ∧
      List.Forall₂ (Reports r) places (r.lint.filter fun w => w.finding.isUnresolved) := by
  obtain ⟨places, hsublist, hmem, hreports⟩ := forall₂_reports hstored hlookup hctx
    r.references fun q hq => (Resource.mem_references_iff h).mp hq
  refine ⟨places.map Prod.fst, (Resource.nodup_references h).sublist (hsublist.map _),
    fun o => ?_, ?_⟩
  · simp only [List.mem_map, hmem, Prod.exists, Resource.mem_references_iff h]
    constructor
    · rintro ⟨_, ref, ⟨href, hdangling⟩, rfl⟩
      exact ⟨ref, href, hdangling⟩
    · rintro ⟨ref, href, hdangling⟩
      exact ⟨o, ref, ⟨href, hdangling⟩, rfl⟩
  · rw [unresolved_lint]
    exact hreports

/-- Signs of a house. A page that is not there is referred to twice in one
pattern, and a number names no message in a selector; what is in the case
leads elsewhere or only when it is shown. -/
def signs : Resource :=
  let page : Element := .message none [.literal (.string "hall"), .literal (.string "page")] none
  ⟨"signs", "en",
    [("hall", .group [("welcome", .message (.pattern
        [.literal (.string "Welcome"), page, .message (some "signs") [.literal (.string "way")]
          (some [("place", .element (.call "upper" [page] []))])]))]),
      ("way", .message (.select
        ⟨[⟨.message (some "signs") [.literal (.number 1)] none, none⟩],
          [⟨[.string "other"], [.message (some "map") [.literal (.string "door")] none,
            .message none [.variable [.literal (.string "place")]] none]⟩]⟩))]⟩

theorem unresolved_warnings_exact_signs :
    signs.Ordered ∧ ∃ places : List Occurrence, places.Nodup ∧
      ⟨["way"], [.ofCase 0 0]⟩ ∉ places ∧
      List.Forall₂ (Reports signs) places
        [⟨"hall.welcome", .unresolvedReference "hall.page"⟩,
          ⟨"hall.welcome", .unresolvedReference "hall.page"⟩,
          ⟨"way", .unresolvedReference "1"⟩] := by
  have hordered : signs.Ordered := by
    simp only [signs, Resource.Ordered, OrderedEntries, Entry.Ordered, Message.Ordered,
      Element.OrderedIn, Element.OrderedOf, Element.Ordered, Dictionary.Ordered,
      List.forall_mem_singleton]
    decide
  let c : Catalog := { Catalog.empty with resources := [("signs", signs)] }
  have hlookup : (c.context "signs" (.ofDictionary [])).messages = c.lookup := rfl
  obtain ⟨places, hnodup, hplaces, hreports⟩ :=
    unresolved_warnings_exact hordered rfl hlookup rfl
  have hwarnings : signs.lint.filter (fun w => w.finding.isUnresolved)
      = [⟨"hall.welcome", .unresolvedReference "hall.page"⟩,
        ⟨"hall.welcome", .unresolvedReference "hall.page"⟩,
        ⟨"way", .unresolvedReference "1"⟩] := by decide +kernel
  refine ⟨hordered, places, hnodup, fun hmem => ?_, hwarnings ▸ hreports⟩
  obtain ⟨ref, href, hdangling⟩ := (hplaces _).mp hmem
  cases href
  exact absurd (hdangling.closed.2 "map" rfl) (by decide)

end Lint

end MessageCatalog
