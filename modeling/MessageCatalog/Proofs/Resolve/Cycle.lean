/-
What counts as a cycle.

A reference is reported as a cycle if a message that is being resolved
has the same frame. Meant by this is a message that repeats: the same
resource, the same path, the same visible variables
(`Target.Repeats`). What is compared is the key, in which resource and
path are one text, and the variables as numbers.

# Where the two agree

The key is the resource, a colon, and the segments of the path between
points. A colon in the resource or a point in a segment can move from one
to the other without a trace in the key; without these the key determines
both (`eq_of_key_eq`). Equal variables are the same ones unless a zero has
a sign, and the same variables are equal unless something is not a
number. `Target.Faithful` excludes all of this, and between faithful
targets a frame repeats exactly if its target does (`same_iff_repeats`).

Without it the two differ: a message named `a.b` is taken for the message
`b` of the group `a`.
-/
import MessageCatalog.Catalog
import MessageCatalog.Proofs.Resource
import MessageCatalog.Proofs.Resolve.Pieces
import MessageCatalog.Proofs.Value

namespace MessageCatalog

-- ================================================================ keys

/-- Texts without a colon that stand before the first colon of the same
text are the same. -/
theorem append_colon_injective {a b x y : String} (ha : ':' ∉ a.toList) (hb : ':' ∉ b.toList)
    (h : a ++ ":" ++ x = b ++ ":" ++ y) : a = b ∧ x = y := by
  have hbefore : ∀ {s t : String}, ':' ∉ s.toList →
      (s ++ ":" ++ t).toList.takeWhile (· ≠ ':') = s.toList := by
    intro s t hs
    have hall : ∀ c ∈ s.toList, decide (c ≠ ':') = true := by
      intro c hc
      simpa using fun heq : c = ':' => hs (heq ▸ hc)
    rw [String.append_assoc, String.toList_append, List.takeWhile_append_of_pos hall]
    simp
  have hab : a = b := by
    refine String.toList_inj.mp ?_
    rw [← hbefore ha (t := x), ← hbefore hb (t := y), h]
  subst hab
  exact ⟨rfl, (String.append_right_inj _).mp h⟩

/-- An empty text stands for none only. -/
theorem getD_injective {r r' : Option String} (hr : r ≠ some "") (hr' : r' ≠ some "")
    (h : r.getD "" = r'.getD "") : r = r' := by
  cases r with
  | none =>
      cases r' with
      | none => rfl
      | some id => exact absurd (congrArg some h.symm) hr'
  | some id =>
      cases r' with
      | none => exact absurd (congrArg some h) hr
      | some id' => exact congrArg some h

namespace Resolve

namespace Target

/-- The same message, met again with the same variables. -/
structure Repeats (t u : Target) : Prop where
  resource : t.context.resourceId = u.context.resourceId
  path : t.path = u.path
  visible : t.visible = u.visible

/-- A target whose key can be taken apart: no separator of the key occurs
in what stands before it or between two of it. -/
structure Separable (t : Target) : Prop where
  resource : ':' ∉ (t.context.resourceId.getD "").toList
  path : t.path ≠ []
  segments : ∀ s ∈ t.path, '.' ∉ s.toList

/-- A separable target whose resource is not mistaken for none and whose
variables are equal exactly to themselves. -/
structure Faithful (t : Target) : Prop extends Separable t where
  named : t.context.resourceId ≠ some ""
  numeric : Value.AllInPairs Value.Numeric t.visible
  unsigned : Value.AllInPairs Value.Unsigned t.visible

variable {t u : Target}

/-- The key of a separable target determines its resource and its path. -/
theorem eq_of_key_eq (ht : t.Separable) (hu : u.Separable) (h : t.key = u.key) :
    t.context.resourceId.getD "" = u.context.resourceId.getD "" ∧ t.path = u.path := by
  obtain ⟨hresource, hdotted⟩ := append_colon_injective ht.resource hu.resource h
  exact ⟨hresource, dotted_injective ht.path hu.path ht.segments hu.segments hdotted⟩

theorem Repeats.key_eq (h : t.Repeats u) : t.key = u.key := by
  unfold key
  rw [h.resource, h.path]

end Target

-- ============================================================== frames

variable {t : Target} {f : Frame}

/-- What is compared: the keys, and the variables as values. -/
theorem same_iff :
    f.same t.frame = true ↔
      f.target.key = t.key ∧ Value.samePairs f.target.visible t.visible = true := by
  unfold Frame.same
  rw [Bool.and_eq_true_iff, beq_iff_eq, f.key_eq, f.visible_eq]
  exact Iff.rfl

/-- A target that repeats has its frame repeat if its variables are equal
to themselves. -/
theorem same_of_repeats (h : f.target.Repeats t) (ht : Value.AllInPairs Value.Numeric t.visible) :
    f.same t.frame = true := by
  rw [same_iff, h.visible]
  exact ⟨h.key_eq, Value.samePairs_self ht⟩

/-- Between faithful targets a frame repeats exactly if its target does. -/
theorem same_iff_repeats (hf : f.target.Faithful) (ht : t.Faithful) :
    f.same t.frame = true ↔ f.target.Repeats t := by
  refine ⟨fun hsame => ?_, fun h => same_of_repeats h ht.numeric⟩
  obtain ⟨hkey, hvisible⟩ := same_iff.mp hsame
  obtain ⟨hresource, hpath⟩ := Target.eq_of_key_eq hf.toSeparable ht.toSeparable hkey
  exact ⟨getD_injective hf.named ht.named hresource, hpath,
    Value.eq_of_samePairs hvisible hf.unsigned ht.unsigned⟩

-- ============================================================== visits

/-- A message that was found is reported as a cycle exactly if its frame
repeats one in the chain. -/
theorem Visit.Sound.cyclic_iff {root : Context} {v : Visit} (h : v.Sound noRepeat root)
    (hfound : v.target.message.isSome) :
    v.outcome = .cyclic ↔ ∃ f ∈ v.chain, f.same v.target.frame = true := by
  rw [← List.any_eq_true]
  show _ ↔ noRepeat v.chain v.target.frame = true
  cases h.decided with
  | missing _ hnone =>
      rw [hnone] at hfound
      cases hfound
  | cyclic houtcome _ hseen => exact iff_of_true houtcome hseen
  | tooDeep houtcome _ hnew =>
      rw [houtcome, hnew]
      exact iff_of_false nofun nofun
  | entered houtcome _ hnew =>
      rw [houtcome, hnew]
      exact iff_of_false nofun nofun

/-- A run is stopped by a cycle exactly if one of its visits is one. -/
theorem refusal_eq_cyclicReference {v : Visit} {keys : List String} :
    v.refusal = some (.cyclicReference keys) ↔
      v.outcome = .cyclic ∧ v.chain.map Frame.key ++ [v.target.key] = keys := by
  obtain ⟨chain, target, outcome⟩ := v
  cases outcome with
  | cyclic => simp [Visit.refusal, Target.frame]
  | _ => simp [Visit.refusal]

/-- Cycles are reported for the visits at which a frame repeats: one with
the same key and equal variables. A message that repeats is reported
exactly if all numbers that it sees are numbers, and where the targets are
faithful nothing else is. -/
theorem cycle_reports (ctx : Context) (m : Message) :
    (∀ keys, formatText ctx m = .error (.cyclicReference keys) ↔
      ∃ v ∈ textVisits ctx m,
        v.outcome = .cyclic ∧ v.chain.map Frame.key ++ [v.target.key] = keys) ∧
    (∀ keys, formatParts ctx m = .error (.cyclicReference keys) ↔
      ∃ v ∈ partsVisits ctx m,
        v.outcome = .cyclic ∧ v.chain.map Frame.key ++ [v.target.key] = keys) ∧
    ∀ v, v ∈ textVisits ctx m ∨ v ∈ partsVisits ctx m → v.target.message.isSome →
      (v.outcome = .cyclic ↔ ∃ f ∈ v.chain, f.target.key = v.target.key ∧
        Value.samePairs f.target.visible v.target.visible = true) ∧
      ((∃ f ∈ v.chain, f.target.Repeats v.target) →
        (v.outcome = .cyclic ↔ Value.AllInPairs Value.Numeric v.target.visible)) ∧
      (v.target.Faithful → (∀ f ∈ v.chain, f.target.Faithful) →
        (v.outcome = .cyclic ↔ ∃ f ∈ v.chain, f.target.Repeats v.target)) := by
  have htext : ∀ keys, formatText ctx m = .error (.cyclicReference keys) ↔
      ∃ v ∈ textVisits ctx m,
        v.outcome = .cyclic ∧ v.chain.map Frame.key ++ [v.target.key] = keys := by
    intro keys
    simp only [formatText_error_iff, refusal_eq_cyclicReference]
  rw [partsVisits_eq]
  refine ⟨htext, fun keys => formatParts_error_iff.trans (htext keys), fun v hv hfound => ?_⟩
  have hcyclic := (textVisits_sound v (or_self_iff.mp hv)).cyclic_iff hfound
  refine ⟨?_, fun hrepeats => ?_, fun ht hchain => ?_⟩
  · rw [hcyclic]
    simp only [same_iff]
  · rw [hcyclic]
    obtain ⟨f, hf, hrepeats⟩ := hrepeats
    refine ⟨fun ⟨f', _, hsame⟩ => ?_, fun hnumeric => ⟨f, hf, same_of_repeats hrepeats hnumeric⟩⟩
    exact Value.numeric_of_samePairs (same_iff.mp hsame).2
  · rw [hcyclic]
    refine exists_congr fun f => and_congr_right fun hf => ?_
    exact same_iff_repeats (hchain f hf) ht

-- ============================================================ examples

/-- A message that is one reference within its own resource. -/
def reference (path : List String) : Message :=
  .pattern [.message none (path.map fun name => .literal (.string name)) none]

/-- The context of a catalog with one resource and no variables. -/
def contextOf (entries : Dictionary Entry) : Context :=
  Catalog.context { Catalog.empty with resources := [("res", ⟨"res", "en", entries⟩)] } "res"
    (.ofDictionary [])

/-- A message that refers to itself repeats, and is reported. -/
theorem cycle_reports_loop :
    ∃ v ∈ textVisits (contextOf [("loop", .message (reference ["loop"]))]) (reference ["loop"]),
      v.outcome = .cyclic ∧ v.target.Faithful ∧ ∃ f ∈ v.chain, f.target.Repeats v.target := by
  let ctx := contextOf [("loop", .message (reference ["loop"]))]
  let t := target ctx none [.string "loop"] none
  let v : Visit := ⟨[t.frame], t, .cyclic⟩
  have hvisits : textVisits ctx (reference ["loop"]) = [⟨[], t, .entered⟩, v] := by rfl
  have hv : v ∈ textVisits ctx (reference ["loop"]) := by
    rw [hvisits]
    exact List.mem_cons_of_mem _ (List.mem_singleton_self v)
  have hfaithful : t.Faithful :=
    ⟨⟨by decide +kernel, by decide +kernel, by decide +kernel⟩, by decide +kernel, trivial, trivial⟩
  have hchain : ∀ f ∈ v.chain, f.target.Faithful := by
    intro f hf
    rw [List.mem_singleton.mp hf]
    exact hfaithful
  have hiff := ((cycle_reports ctx (reference ["loop"])).2.2 v (Or.inl hv) rfl).2.2 hfaithful hchain
  exact ⟨v, hv, rfl, hfaithful, hiff.mp rfl⟩

/-- A message named `a.b` that refers to the message `b` of the group `a`. -/
def dottedEntries : Dictionary Entry :=
  [("a", .group [("b", .message (.pattern [.literal (.string "hi")]))]),
    ("a.b", .message (reference ["a", "b"])),
    ("start", .message (reference ["a.b"]))]

/-- The two messages are taken for each other: a reference from one to the
other is reported as a cycle although no message repeats. -/
theorem dotted_names_collide :
    formatText (contextOf dottedEntries) (reference ["a.b"])
      = .error (.cyclicReference ["res:a.b", "res:a.b"]) ∧
    ∃ v ∈ textVisits (contextOf dottedEntries) (reference ["a.b"]),
      v.target.message.isSome ∧ v.outcome = .cyclic ∧
        ∀ f ∈ v.chain, ¬ f.target.Repeats v.target := by
  let outer := target (contextOf dottedEntries) none [.string "a.b"] none
  let inner := target outer.context none [.string "a", .string "b"] none
  have hvisits : textVisits (contextOf dottedEntries) (reference ["a.b"])
      = [⟨[], outer, .entered⟩, ⟨[outer.frame], inner, .cyclic⟩] := by rfl
  rw [hvisits]
  refine ⟨rfl, _, List.mem_cons_of_mem _ (List.mem_singleton_self _), rfl, rfl, fun f hf h => ?_⟩
  rw [List.mem_singleton.mp hf] at h
  exact absurd h.path (by decide +kernel)

end Resolve

end MessageCatalog
