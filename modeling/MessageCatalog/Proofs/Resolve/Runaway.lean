/-
Chains of references that never end.

As long as no reference overrides a variable, every message of a run sees
what the outermost one sees. Then a frame repeats as soon as its key does,
provided that the variables are equal to themselves, and the messages that
wait for one another all have different keys (`Unrepeated`).

# Counting the messages that wait

Each message in a chain was found, so its key is that of a message that
the catalog lists. Different keys are then no more than there are messages
(`Unrepeated.length_le`). A chain with all of them in it can only go on to
one of them, which is a cycle; so a limit that allows as many steps as
there are messages is never what stops a run.

# Why one less is not enough

Of two messages that refer to each other, each is entered before the first
one is met again. With a limit of one the second one cannot be entered.
-/
import MessageCatalog.Proofs.Resolve.Cycle
import MessageCatalog.Proofs.Catalog

namespace MessageCatalog

namespace Resolve

/-- A reference that overrides nothing. -/
def Plain : OfReference := fun _ _ overrides => overrides = none

/-- What such a reference leads to has no bindings. -/
theorem eq_none_of_plain {resource : Option String} {path : List Element}
    {overrides : Option (List (String × Override))} {bs : Option (Dictionary Value)}
    (h : Plain resource path overrides) (hbs : bs.isSome = overrides.isSome) : bs = none := by
  rw [show overrides = none from h] at hbs
  exact Option.not_isSome_iff_eq_none.mp (Bool.eq_false_iff.mp hbs)

-- ========================================================= frames differ

/-- The messages in a chain see the variables of a scope, and their keys
are all different. -/
structure Unrepeated (scope : Scope) (chain : Chain) : Prop where
  scope : ∀ f ∈ chain, f.target.context.scope = scope
  keys : (chain.map Frame.key).Nodup

/-- A message that does not repeat has a key of its own. -/
theorem Unrepeated.push {scope : Scope} {chain : Chain} {t : Target} (h : Unrepeated scope chain)
    (ht : t.context.scope = scope) (hnumeric : Value.AllInPairs Value.Numeric scope.flatten)
    (hg : noRepeat chain t.frame = false) : Unrepeated scope (chain ++ [t.frame]) := by
  refine ⟨forall_push (P := fun u => u.context.scope = scope) h.scope ht, ?_⟩
  -- With the variables the same everywhere, a key that is not new would
  -- make the frame repeat.
  have hnew : t.key ∉ chain.map Frame.key := by
    intro hmem
    obtain ⟨f, hf, hkey⟩ := List.mem_map.mp hmem
    have hequal : Value.samePairs f.target.visible t.visible = true := by
      unfold Target.visible
      rw [h.scope f hf, ht]
      exact Value.samePairs_self hnumeric
    have hsame : f.same t.frame = true := same_iff.mpr ⟨f.key_eq ▸ hkey, hequal⟩
    have hrepeat : noRepeat chain t.frame = true := List.any_eq_true.mpr ⟨f, hf, hsame⟩
    rw [hg] at hrepeat
    exact nomatch hrepeat
  rw [List.map_append]
  refine List.nodup_append.mpr ⟨h.keys, List.nodup_singleton _, fun key hkey last hlast => ?_⟩
  rw [List.mem_singleton.mp hlast]
  rintro rfl
  exact hnew hkey

/-- A visit at which nothing has repeated and nothing was overridden. -/
structure Visit.Unrepeated (root : Context) (v : Visit) : Prop where
  target : v.target.context.scope = root.scope
  chain : Resolve.Unrepeated root.scope v.chain

variable {root : Context}

/-- If no message that can be found overrides anything, no visit on the way
to the text of a reference does. -/
theorem textOf_unrepeated
    (hplain : ∀ resource path m, root.messages resource path = some m → m.EveryReference Plain)
    (hnumeric : Value.AllInPairs Value.Numeric root.scope.flatten) (room : Nat) (chain : Chain)
    (t : Target) (ht : t.Sound root) (hscope : t.context.scope = root.scope)
    (hchain : Unrepeated root.scope chain) :
    ∀ v ∈ (textOf noRepeat room chain t : Traced String).visits, v.Unrepeated root := by
  induction room generalizing chain t with
  | zero => exact everyVisit_referring (fun _ => ⟨hscope, hchain⟩) (by simp)
  | succ room ih =>
      refine everyVisit_referring (fun _ => ⟨hscope, hchain⟩) fun body hbody m hm hg => ?_
      cases hbody
      have hmessage : m.EveryReference Plain := hplain _ _ m (ht.message ▸ hm)
      refine (everyVisit _).messageText_self_of
        (fun resource path overrides hnone segments bs hbs => ?_) m hmessage
      obtain rfl := eq_none_of_plain hnone hbs
      exact ih _ _ (target_sound ht.settings ..) hscope (hchain.push hscope hnumeric hg)

/-- If no message that can be found overrides anything, and neither does
the outermost one, no visit on the way to its text does. -/
theorem textVisits_unrepeated {m : Message}
    (hplain : ∀ resource path m, root.messages resource path = some m → m.EveryReference Plain)
    (hnumeric : Value.AllInPairs Value.Numeric root.scope.flatten) (hm : m.EveryReference Plain) :
    ∀ v ∈ textVisits root m, v.Unrepeated root := by
  refine (everyVisit _).messageText_self_of
    (fun resource path overrides hnone segments bs hbs => ?_) m hm
  obtain rfl := eq_none_of_plain hnone hbs
  exact textOf_unrepeated hplain hnumeric _ _ _ (target_sound (.refl root) ..) rfl
    ⟨by simp, by simp⟩

-- ====================================================== frames are listed

/-- A message that was found in a catalog has the key of one that the
catalog lists. -/
theorem Target.Sound.key_listed {c : Catalog} {id : String} {scope : Scope} {t : Target}
    (h : t.Sound (c.context id scope)) (hfound : t.message.isSome) :
    t.key ∈ c.listing.map fun q => q.1.1 ++ ":" ++ dotted q.1.2 := by
  obtain ⟨m, hm⟩ := Option.isSome_iff_exists.mp hfound
  rw [h.message] at hm
  obtain ⟨resource, hresource, hlisted⟩ := Catalog.mem_listing hm
  refine List.mem_map.mpr ⟨_, hlisted, ?_⟩
  unfold Target.key
  rw [hresource]
  rfl

/-- There are no more messages in a chain than in the catalog if their keys
are all different. -/
theorem Unrepeated.length_le {c : Catalog} {id : String} {scope scope' : Scope} {chain : Chain}
    (h : Unrepeated scope chain) (hsound : SoundChain (c.context id scope') chain) :
    chain.length ≤ c.messageCount := by
  have hlisted : chain.map Frame.key
      ⊆ c.listing.map fun q => q.1.1 ++ ":" ++ dotted q.1.2 := by
    intro key hkey
    obtain ⟨f, hf, rfl⟩ := List.mem_map.mp hkey
    obtain ⟨ht, hfound⟩ := hsound f hf
    rw [f.key_eq]
    exact ht.key_listed hfound
  have hle := h.keys.length_le_of_subset hlisted
  rwa [List.length_map, List.length_map] at hle

/-- If the limit allows as many steps as the catalog has messages, it does
not stop a visit at which nothing has repeated: with the message that it
would stop, the chain has more messages than the catalog. -/
theorem Visit.Unrepeated.not_tooDeep {c : Catalog} {id : String} {scope : Scope} {v : Visit}
    (h : v.Unrepeated (c.context id scope)) (hsound : v.Sound noRepeat (c.context id scope))
    (hnumeric : Value.AllInPairs Value.Numeric scope.flatten)
    (hroomy : c.messageCount ≤ c.maxDepth) : v.outcome ≠ .tooDeep := by
  intro hdeep
  cases hsound.decided with
  | tooDeep _ hfound hnew hfull =>
      -- The message that is stopped was found and is new, so it counts too.
      obtain ⟨m, hm⟩ := Option.isSome_iff_exists.mp hfound
      have hunrepeated := h.chain.push h.target hnumeric hnew
      have hle := hunrepeated.length_le (hsound.chain.push hsound.target hm)
      rw [List.length_append, List.length_singleton] at hle
      have hlimit : c.maxDepth ≤ v.chain.length := hfull
      omega
  | missing houtcome => exact nomatch houtcome.symm.trans hdeep
  | cyclic houtcome => exact nomatch houtcome.symm.trans hdeep
  | entered houtcome => exact nomatch houtcome.symm.trans hdeep

-- ========================================================= whole runs

/-- A run that ends well or with a cycle. -/
inductive Settled {α : Type} : Except FormatError α → Prop where
  | ok (a : α) : Settled (.ok a)
  | cyclic (keys : List String) : Settled (.error (.cyclicReference keys))

/-- A visit that is refused, but not by the limit, is a cycle. -/
theorem settled_of_refusal {v : Visit} {e : FormatError} (hv : v.outcome ≠ .tooDeep)
    (he : v.refusal = some e) {α : Type} : Settled (.error e : Except FormatError α) := by
  unfold Visit.refusal at he
  cases houtcome : v.outcome with
  | tooDeep => exact absurd houtcome hv
  | cyclic =>
      rw [houtcome] at he
      cases he
      exact .cyclic _
  | _ =>
      rw [houtcome] at he
      cases he

/-- A run with no visit that the limit stops is settled, for the text and
for the parts. -/
theorem settled_of_visits {ctx : Context} {m : Message}
    (h : ∀ v ∈ textVisits ctx m, v.outcome ≠ .tooDeep) :
    Settled (formatText ctx m) ∧ Settled (formatParts ctx m) := by
  have hrefused : ∀ e, formatText ctx m = .error e → ∀ {α : Type},
      Settled (.error e : Except FormatError α) := by
    intro e he α
    obtain ⟨v, hv, hrefusal⟩ := formatText_error_iff.mp he
    exact settled_of_refusal (h v hv) hrefusal
  constructor
  · cases he : formatText ctx m with
    | ok s => exact .ok s
    | error e => exact hrefused e he
  · cases he : formatParts ctx m with
    | ok ps => exact .ok ps
    | error e => exact hrefused e (formatParts_error_iff.mp he)

end Resolve

-- ============================================================ catalogs

namespace Catalog

open Resolve

variable {c : Catalog}

/-- No reference in a message of the catalog overrides a variable. -/
def WithoutOverrides (c : Catalog) : Prop := ∀ q ∈ c.listing, q.2.EveryReference Plain

theorem WithoutOverrides.of_lookup (h : c.WithoutOverrides) {resource : Option String}
    {path : List String} {m : Message} (hm : c.lookup resource path = some m) :
    m.EveryReference Plain := by
  obtain ⟨id, -, hlisted⟩ := mem_listing hm
  exact h _ hlisted

/-- Without overrides, a chain of references that does not end is a cycle.
If no message of a catalog overrides a variable, all variables are equal to
themselves and the limit allows as many steps as there are messages, then
formatting never ends at the limit. -/
theorem runaway_is_cycle (hplain : c.WithoutOverrides) (hroomy : c.messageCount ≤ c.maxDepth)
    {id : String} {path : List String} {m : Message} (hm : c.requireMessage id path = .ok m)
    (scope : Scope) (hnumeric : Value.AllInPairs Value.Numeric scope.flatten) :
    Settled (formatText (c.context id scope) m) ∧ Settled (formatParts (c.context id scope) m) := by
  refine settled_of_visits fun v hv => ?_
  have hmessage : m.EveryReference Plain := hplain.of_lookup (lookup_of_requireMessage hm)
  have hunrepeated : v.Unrepeated (c.context id scope) :=
    textVisits_unrepeated (fun _ _ _ => hplain.of_lookup) hnumeric hmessage v hv
  exact hunrepeated.not_tooDeep (textVisits_sound v hv) hnumeric hroomy

/-- Two messages that refer to each other. -/
def ring : Catalog :=
  { empty with
    maxDepth := 2
    resources := [("res", ⟨"res", "en",
      [("a", .message (reference ["b"])), ("b", .message (reference ["a"]))]⟩)] }

theorem runaway_is_cycle_ring :
    Settled (formatText (ring.context "res" (.ofDictionary [])) (reference ["b"])) := by
  have hplain : ring.WithoutOverrides := by
    intro q hq
    have hq' : q ∈ [(("res", ["a"]), reference ["b"]), (("res", ["b"]), reference ["a"])] := hq
    rcases List.mem_pair.mp hq' with rfl | rfl
    · exact ⟨⟨rfl, trivial, trivial⟩, trivial⟩
    · exact ⟨⟨rfl, trivial, trivial⟩, trivial⟩
  have hfound : ring.requireMessage "res" ["a"] = .ok (reference ["b"]) := rfl
  exact (runaway_is_cycle hplain (by decide) hfound (.ofDictionary []) trivial).1

/-- With a limit of one, the second of them is not entered. -/
example : { ring with maxDepth := 1 }.format "res" ["a"] []
    = .error (.maxDepthExceeded 1) := rfl

end Catalog

end MessageCatalog
