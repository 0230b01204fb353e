/-
Sessions: what calls make of a catalog.

A session is a list of calls, each answered in the catalog that the calls
before it have left. What is stored at its end can be read off the calls
alone: under each id lies the resource that was last put there, by hand or
by a load that went well (`Stores`).

# One call, then all of them

Of all calls only those that add or load a resource touch what is stored,
and they put it under its id (`perform_cases`). So the order of the ids,
the filing and the look-ups are kept by one call (`Stores.perform`), and
the induction is on the session, with what was stored before it left open.

A load that fails gives its catalog back, and with it everything that can
be asked of it later, formatting included: the rest of the session runs as
if the load had not been called (`Catalog.last_write_wins`).
-/
import MessageCatalog.Proofs.Catalog

namespace MessageCatalog.Catalog

-- =============================================================== calls

/-- A call on a catalog. Reading a file is no part of it; the call is given
what came of that. -/
inductive Call where
  | add (r : Resource)
  | loadText (text : String)
  | loadFile (path : String) (content : Except FileProblem String)
  | setLocales (locales : List String)
  | register (kind : FunctionKind) (name : String) (f : Function)
  | format (id : String) (path : List String) (bindings : Dictionary Value)
  | formatToParts (id : String) (path : List String) (bindings : Dictionary Value)

/-- The answer to a call. -/
inductive Answer where
  | replaced (old : Option Resource)
  | loaded (outcome : Except LoadError String)
  | done
  | text (outcome : Except FormatError String)
  | parts (outcome : Except FormatError (List Part))

/-- The answer to a load and the catalog behind it: the one that the load
gives, or the same one if it fails. -/
def answerLoad (c : Catalog) : Except LoadError (String × Catalog) → Answer × Catalog
  | .ok (id, c') => (.loaded (.ok id), c')
  | .error e => (.loaded (.error e), c)

/-- Answers a call. -/
def perform (c : Catalog) : Call → Answer × Catalog
  | .add r => (.replaced (c.add r).1, (c.add r).2)
  | .loadText text => c.answerLoad (c.load textPath text)
  | .loadFile path content => c.answerLoad (c.loadFile path content)
  | .setLocales locales => (.done, c.setLocales locales)
  | .register kind name f => (.done, c.register kind name f)
  | .format id path bindings => (.text (c.format id path bindings), c)
  | .formatToParts id path bindings => (.parts (c.formatToParts id path bindings), c)

/-- Answers calls one after another. -/
def session (c : Catalog) : List Call → List Answer × Catalog
  | [] => ([], c)
  | call :: rest =>
    let (answer, c) := c.perform call
    let (answers, c) := c.session rest
    (answer :: answers, c)

/-- The resource that a call stores, if it stores one: the one to add, or
the one in a text that can be read. -/
def Call.stored? : Call → Option Resource
  | .add r => some r
  | .loadText text => (Resource.ofText text).toOption
  | .loadFile _ content => content.toOption.bind fun text => (Resource.ofText text).toOption
  | _ => none

/-- The last resource with an id among those that calls store. -/
def lastStored (calls : List Call) (id : String) : Option Resource :=
  calls.reverse.findSome? fun call => call.stored?.filter fun r => r.id = id

-- ============================================================ one call

variable {c : Catalog} {call : Call} {calls : List Call}

/-- A load of a text adds the resource in it, or gives the catalog back. -/
theorem answerLoad_cases (c : Catalog) (path text : String) :
    (∃ r, (Resource.ofText text).toOption = some r ∧
      c.answerLoad (c.load path text) = (.loaded (.ok r.id), (c.add r).2)) ∨
    (∃ e, (Resource.ofText text).toOption = none ∧
      c.answerLoad (c.load path text) = (.loaded (.error e), c)) := by
  unfold load
  cases Resource.ofText text with
  | ok r => exact .inl ⟨r, rfl, rfl⟩
  | error f => exact .inr ⟨.text path f, rfl, rfl⟩

/-- A call adds the resource that it stores, or leaves all resources where
they are. -/
theorem perform_cases (c : Catalog) (call : Call) :
    (∃ r, call.stored? = some r ∧ (c.perform call).2 = (c.add r).2) ∨
    (call.stored? = none ∧ (c.perform call).2.resources = c.resources) := by
  cases call with
  | add r => exact .inl ⟨r, rfl, rfl⟩
  | loadText text =>
      rcases answerLoad_cases c textPath text with ⟨r, hr, hanswer⟩ | ⟨e, hnone, hanswer⟩
      · exact .inl ⟨r, hr, congrArg Prod.snd hanswer⟩
      · exact .inr ⟨hnone, congrArg (resources ∘ Prod.snd) hanswer⟩
  | loadFile path content =>
      cases content with
      | error problem => exact .inr ⟨rfl, rfl⟩
      | ok text =>
          rcases answerLoad_cases c path text with ⟨r, hr, hanswer⟩ | ⟨e, hnone, hanswer⟩
          · exact .inl ⟨r, hr, congrArg Prod.snd hanswer⟩
          · exact .inr ⟨hnone, congrArg (resources ∘ Prod.snd) hanswer⟩
  | setLocales locales => exact .inr ⟨rfl, rfl⟩
  | register kind name f => exact .inr ⟨rfl, rfl⟩
  | format id path bindings => exact .inr ⟨rfl, rfl⟩
  | formatToParts id path bindings => exact .inr ⟨rfl, rfl⟩

/-- A load that answers with an id has stored a resource under it. -/
theorem stored_of_loaded {id : String} (h : (c.perform call).1 = .loaded (.ok id)) :
    ∃ r, call.stored? = some r ∧ r.id = id := by
  have hload : ∀ path text, (c.answerLoad (c.load path text)).1 = .loaded (.ok id) →
      ∃ r, (Resource.ofText text).toOption = some r ∧ r.id = id := by
    intro path text h
    rcases answerLoad_cases c path text with ⟨r, hr, hanswer⟩ | ⟨e, -, hanswer⟩
    · rw [hanswer] at h
      cases h
      exact ⟨r, hr, rfl⟩
    · rw [hanswer] at h
      exact nomatch h
  cases call with
  | loadText text => exact hload _ _ h
  | loadFile path content =>
      cases content with
      | error problem => exact nomatch h
      | ok text => exact hload _ _ h
  | _ => exact nomatch h

/-- A load that fails stores nothing and gives its catalog back. -/
theorem perform_of_failed {e : LoadError} (h : (c.perform call).1 = .loaded (.error e)) :
    call.stored? = none ∧ c.perform call = (.loaded (.error e), c) := by
  have hload : ∀ path text, (c.answerLoad (c.load path text)).1 = .loaded (.error e) →
      (Resource.ofText text).toOption = none ∧
        c.answerLoad (c.load path text) = (.loaded (.error e), c) := by
    intro path text h
    rcases answerLoad_cases c path text with ⟨r, -, hanswer⟩ | ⟨e', hnone, hanswer⟩
    · rw [hanswer] at h
      exact nomatch h
    · rw [hanswer] at h ⊢
      cases h
      exact ⟨hnone, rfl⟩
  cases call with
  | loadText text => exact hload _ _ h
  | loadFile path content =>
      cases content with
      | error problem =>
          cases h
          exact ⟨rfl, rfl⟩
      | ok text => exact hload _ _ h
  | _ => exact nomatch h

-- ============================================================ sessions

/-- A catalog holds what calls have stored last and nothing else: each
resource under its own id, and the ids in order. -/
structure Stores (c : Catalog) (calls : List Call) : Prop where
  filed : c.Filed
  resource : ∀ id, c.resource? id = lastStored calls id
  increasing : c.ids.Pairwise (· < ·)
  listed : ∀ id, id ∈ c.ids ↔ ∃ call ∈ calls, ∃ r, call.stored? = some r ∧ r.id = id

theorem lastStored_append (calls : List Call) (call : Call) (id : String) :
    lastStored (calls ++ [call]) id
      = (call.stored?.filter fun r => r.id = id).or (lastStored calls id) := by
  unfold lastStored
  rw [List.reverse_append, List.reverse_singleton, List.singleton_append, List.findSome?_cons]
  cases call.stored?.filter fun r => r.id = id with
  | none => rfl
  | some r => rfl

/-- Something was stored under an id exactly if a call has stored it. -/
theorem isSome_lastStored_iff {id : String} :
    (lastStored calls id).isSome ↔ ∃ call ∈ calls, ∃ r, call.stored? = some r ∧ r.id = id := by
  simp [lastStored, List.isSome_findSome?, Option.any_eq_true]

theorem mem_ids_of_resource (h : ∀ id, c.resource? id = lastStored calls id) (id : String) :
    id ∈ c.ids ↔ ∃ call ∈ calls, ∃ r, call.stored? = some r ∧ r.id = id := by
  rw [mem_ids_iff, h, isSome_lastStored_iff]

/-- Without resources nothing has been stored. -/
theorem stores_nil (h : c.resources = []) : c.Stores [] := by
  have hresource : ∀ id, c.resource? id = lastStored [] id := by
    intro id
    rw [resource?, h]
    rfl
  refine ⟨?_, hresource, ?_, mem_ids_of_resource hresource⟩
  · rw [Filed, h]
    nofun
  · rw [ids, h]
    exact List.Pairwise.nil

namespace Stores

/-- A resource that is added is what was last stored under its id, and
nothing changes under other ids. -/
theorem add (h : c.Stores calls) {r : Resource} (hstored : call.stored? = some r) :
    (c.add r).2.Stores (calls ++ [call]) := by
  have hresource : ∀ id, (c.add r).2.resource? id = lastStored (calls ++ [call]) id := by
    intro id
    rw [lastStored_append, hstored]
    by_cases hid : id = r.id
    · rw [hid, resource?_add_self, Option.filter_some, if_pos (by simp)]
      rfl
    · rw [resource?_add_of_ne hid, h.resource, Option.filter_some,
        if_neg (by simpa using Ne.symm hid)]
      rfl
  exact {
    filed := h.filed.add r
    resource := hresource
    increasing := Dictionary.ordered_iff_names.mp
      (Dictionary.ordered_insert r.id r (Dictionary.ordered_iff_names.mpr h.increasing))
    listed := mem_ids_of_resource hresource }

/-- Where no resource is stored, all stay where they are. -/
theorem stay (h : c.Stores calls) {c' : Catalog} (hsame : c'.resources = c.resources)
    (hnone : call.stored? = none) : c'.Stores (calls ++ [call]) := by
  have hresource : ∀ id, c'.resource? id = lastStored (calls ++ [call]) id := by
    intro id
    rw [lastStored_append, hnone, resource?, hsame]
    exact h.resource id
  refine ⟨?_, hresource, ?_, mem_ids_of_resource hresource⟩
  · rw [Filed, hsame]
    exact h.filed
  · rw [ids, hsame]
    exact h.increasing

/-- One call more. -/
theorem perform (h : c.Stores calls) (call : Call) :
    (c.perform call).2.Stores (calls ++ [call]) := by
  rcases perform_cases c call with ⟨r, hstored, hadd⟩ | ⟨hnone, hsame⟩
  · rw [hadd]
    exact h.add hstored
  · exact h.stay hsame hnone

/-- All further calls. The induction is on them; the calls before are those
of the catalog that they start with. -/
theorem session (h : c.Stores calls) (further : List Call) :
    (c.session further).2.Stores (calls ++ further) := by
  induction further generalizing c calls with
  | nil =>
      rw [List.append_nil]
      exact h
  | cons call rest ih =>
      rw [List.append_cons]
      exact ih (h.perform call)

end Stores

/-- The last write wins, and what fails changes nothing. After any calls on
a catalog without resources, each resource lies under its own id, an id has
the resource that was last added or loaded with it, and the ids are listed
in order and once. The next resource that is added is answered with the
one that it displaces; a load that goes well has stored a resource under
the id in its answer; one that fails stores nothing, and behind it every
further call is answered as if it had not been called, and leaves the same
catalog. -/
theorem last_write_wins (hempty : c.resources = []) (calls : List Call) :
    (c.session calls).2.Stores calls ∧
    (∀ r, ((c.session calls).2.perform (.add r)).1 = .replaced (lastStored calls r.id)) ∧
    (∀ call id, ((c.session calls).2.perform call).1 = .loaded (.ok id) →
      ∃ r, call.stored? = some r ∧ r.id = id) ∧
    ∀ call e, ((c.session calls).2.perform call).1 = .loaded (.error e) →
      call.stored? = none ∧
      ((c.session calls).2.perform call).2 = (c.session calls).2 ∧
      ∀ further, (c.session calls).2.session (call :: further)
        = (.loaded (.error e) :: ((c.session calls).2.session further).1,
            ((c.session calls).2.session further).2) := by
  have hstores : (c.session calls).2.Stores calls := (stores_nil hempty).session calls
  refine ⟨hstores, fun r => ?_, fun call id h => stored_of_loaded h, fun call e h => ?_⟩
  · exact congrArg Answer.replaced (hstores.resource r.id)
  · obtain ⟨hnone, hsame⟩ := perform_of_failed h
    refine ⟨hnone, congrArg Prod.snd hsame, fun further => ?_⟩
    rw [session, hsame]

/-- A resource under an id, with nothing in it. -/
def bare (id locale : String) : Json :=
  .object [("id", .string id), ("locale", .string locale), ("entries", .object [])]

/-- Calls that add, load and fail to load. -/
def rewriting : List Call :=
  [.add (.empty "res" "en"), .loadText (Json.compact (bare "out" "fi")), .loadText "\x7b",
    .setLocales ["fi"], .loadFile "res.json" (.ok (Json.compact (bare "res" "de"))),
    .loadFile "gone.json" (.error .notFound)]

/-- Of three resources under one id the last one loaded is there, the next
one displaces it, and a text that cannot be read is as good as none. -/
theorem last_write_wins_rewriting :
    empty.resources = [] ∧
    ((empty.session rewriting).2.resource? "res").map Resource.locale = some "de" ∧
    ((empty.session rewriting).2.perform (.loadText (Json.compact (bare "out" "sv")))).1
      = .loaded (.ok "out") ∧
    (∃ r, (Call.loadText (Json.compact (bare "out" "sv"))).stored? = some r ∧ r.id = "out") ∧
    ((empty.session rewriting).2.perform (.loadFile "gone.json" (.error .notFound))).1
      = .loaded (.error (.file "gone.json" .notFound)) ∧
    ((empty.session rewriting).2.session
        [.loadFile "gone.json" (.error .notFound), .format "res" ["start"] []]).1
      = [.loaded (.error (.file "gone.json" .notFound)),
          .text (.error (.messageNotFound "res" "start"))] ∧
    ∃ r, ((empty.session rewriting).2.perform (.add (.empty "res" "sv"))).1
      = .replaced (some r) ∧ r.locale = "de" := by
  obtain ⟨hstores, hreplaced, hloaded, hfailed⟩ := last_write_wins (c := empty) rfl rewriting
  have hlast : (lastStored rewriting "res").map Resource.locale = some "de" := by decide +kernel
  have hok : ((empty.session rewriting).2.perform (.loadText (Json.compact (bare "out" "sv")))).1
      = .loaded (.ok "out") := rfl
  have herror : ((empty.session rewriting).2.perform (.loadFile "gone.json" (.error .notFound))).1
      = .loaded (.error (.file "gone.json" .notFound)) := rfl
  obtain ⟨r, hr, hlocale⟩ := Option.map_eq_some_iff.mp hlast
  refine ⟨rfl, ?_, hok, hloaded _ _ hok, herror, ?_, r, ?_, hlocale⟩
  · rw [hstores.resource]
    exact hlast
  · rw [(hfailed _ _ herror).2.2]
    rfl
  · rw [hreplaced]
    exact congrArg Answer.replaced hr

end MessageCatalog.Catalog
