/-
What the messages of a catalog lie under.

A lookup that finds a message names a resource of the catalog and a path
of at least one name, each the name of an entry. So what holds of all ids
and of all names of entries holds of every resource and path under which
a message is found (`Catalog.lookup_eq_some`). And what a lookup finds is
among the messages that the resources list (`Catalog.mem_listing`). A
catalog with every message changed finds the changed messages
(`Catalog.lookup_mapMessages`).
-/
import MessageCatalog.Catalog
import MessageCatalog.Proofs.Resource

namespace MessageCatalog

variable {p : String → Prop}

mutual

/-- All names of entries below an entry, at any depth, have a property. -/
def Entry.AllNames (p : String → Prop) : Entry → Prop
  | .message _ => True
  | .group entries => AllNamesIn p entries

/-- All names of entries in a group, at any depth, have a property. -/
def AllNamesIn (p : String → Prop) : List (String × Entry) → Prop
  | [] => True
  | (name, e) :: rest => p name ∧ e.AllNames p ∧ AllNamesIn p rest

end

theorem AllNamesIn.of_mem {entries : List (String × Entry)} (h : AllNamesIn p entries)
    {name : String} {e : Entry} (hmem : (name, e) ∈ entries) : p name ∧ e.AllNames p := by
  induction entries with
  | nil => exact nomatch hmem
  | cons q rest ih =>
      obtain ⟨n, e'⟩ := q
      obtain ⟨hname, hentry, hrest⟩ := h
      rcases List.mem_cons.mp hmem with heq | hmem
      · cases heq
        exact ⟨hname, hentry⟩
      · exact ih hrest hmem

/-- A path leads along names of entries. The induction follows the path,
which leaves a group at each name. -/
theorem Entry.AllNames.of_at? {e e' : Entry} (h : e.AllNames p) {path : List String}
    (hat : e.at? path = some e') : ∀ name ∈ path, p name := by
  induction path generalizing e with
  | nil => exact fun name hname => nomatch hname
  | cons first rest ih =>
      cases e with
      | message m => exact nomatch hat
      | group entries =>
          rw [Entry.at?] at hat
          obtain ⟨next, hget, hnext⟩ := Option.bind_eq_some_iff.mp hat
          obtain ⟨hfirst, hentry⟩ := AllNamesIn.of_mem h (Dictionary.mem_of_get? hget)
          intro name hname
          rcases List.mem_cons.mp hname with rfl | hname
          · exact hfirst
          · exact ih hentry hnext name hname

namespace Resource

/-- The path of a message has a name, and consists of names of entries. -/
theorem message?_eq_some {r : Resource} {path : List String} {m : Message}
    (h : r.message? path = some m) (hnames : AllNamesIn p r.entries) :
    path ≠ [] ∧ ∀ name ∈ path, p name := by
  cases path with
  | nil => exact nomatch h
  | cons first rest =>
      obtain ⟨e, hentry, -⟩ := Option.bind_eq_some_iff.mp h
      rw [entryAt?_cons] at hentry
      exact ⟨List.cons_ne_nil first rest,
        Entry.AllNames.of_at? (e := .group r.entries) hnames hentry⟩

end Resource

namespace Catalog

/-- The names of entries in all resources of a catalog have a property. -/
def AllNames (c : Catalog) (p : String → Prop) : Prop :=
  ∀ r ∈ c.resources, AllNamesIn p r.2.entries

/-- A message is found under the id of a resource and a path of names of
entries. -/
theorem lookup_eq_some {c : Catalog} {resource : Option String} {path : List String} {m : Message}
    (h : c.lookup resource path = some m) (hnames : c.AllNames p) :
    (∃ id ∈ c.ids, resource = some id) ∧ path ≠ [] ∧ ∀ name ∈ path, p name := by
  obtain ⟨id, hid, hbind⟩ := Option.bind_eq_some_iff.mp h
  obtain ⟨r, hr, hm⟩ := Option.bind_eq_some_iff.mp hbind
  have hmem : (id, r) ∈ c.resources := Dictionary.mem_of_get? hr
  exact ⟨⟨id, List.mem_map_of_mem hmem, hid⟩, Resource.message?_eq_some hm (hnames _ hmem)⟩

/-- All messages of all resources, each with the id of its resource and
its path. -/
def listing (c : Catalog) : List ((String × List String) × Message) :=
  c.resources.flatMap fun r => r.2.messages.map fun q => ((r.1, q.1), q.2)

/-- How many messages a catalog holds in all its resources. -/
def messageCount (c : Catalog) : Nat := c.listing.length

/-- A message that is found is listed under the id and the path by which
it was found. -/
theorem mem_listing {c : Catalog} {resource : Option String} {path : List String} {m : Message}
    (h : c.lookup resource path = some m) :
    ∃ id, resource = some id ∧ ((id, path), m) ∈ c.listing := by
  obtain ⟨id, hid, hbind⟩ := Option.bind_eq_some_iff.mp h
  obtain ⟨r, hr, hm⟩ := Option.bind_eq_some_iff.mp hbind
  refine ⟨id, hid, List.mem_flatMap.mpr ⟨(id, r), Dictionary.mem_of_get? hr, ?_⟩⟩
  exact List.mem_map.mpr ⟨(path, m), Resource.mem_messages hm, rfl⟩

/-- The message to format is the one that a lookup finds. -/
theorem requireMessage_eq (c : Catalog) (id : String) (path : List String) :
    c.requireMessage id path
      = (c.lookup (some id) path).elim (.error (.messageNotFound id (dotted path))) .ok := by
  have hlookup : (c.entryAt? id path).bind Entry.message? = c.lookup (some id) path :=
    Option.bind_assoc ..
  unfold requireMessage
  rw [← hlookup]
  cases (c.entryAt? id path).bind Entry.message? <;> rfl

theorem lookup_of_requireMessage {c : Catalog} {id : String} {path : List String} {m : Message}
    (h : c.requireMessage id path = .ok m) : c.lookup (some id) path = some m := by
  rw [requireMessage_eq] at h
  cases hm : c.lookup (some id) path with
  | none => rw [hm] at h; exact nomatch h
  | some m' =>
      rw [hm] at h
      cases h
      rfl

-- ============================================================== filing

/-- Every resource is stored under its own id. -/
def Filed (c : Catalog) : Prop := ∀ q ∈ c.resources, q.2.id = q.1

theorem filed_empty : empty.Filed := nofun

/-- Resources are only ever stored under their ids. -/
theorem Filed.add {c : Catalog} (h : c.Filed) (r : Resource) : (c.add r).2.Filed := by
  intro q hq
  rcases Dictionary.mem_insert hq with rfl | hq
  · rfl
  · exact h q hq

theorem Filed.load {c c' : Catalog} (h : c.Filed) {path text id : String}
    (hload : c.load path text = .ok (id, c')) : c'.Filed := by
  unfold Catalog.load at hload
  split at hload
  · cases hload
    exact h.add _
  · exact nomatch hload

theorem Filed.id_eq {c : Catalog} (h : c.Filed) {id : String} {r : Resource}
    (hr : c.resource? id = some r) : r.id = id :=
  h (id, r) (Dictionary.mem_of_get? hr)

/-- A resource that is added is found under its id. -/
theorem resource?_add_self (c : Catalog) (r : Resource) : (c.add r).2.resource? r.id = some r :=
  Dictionary.get?_insert_self r.id r c.resources

/-- Adding a resource leaves those with other ids as they are. -/
theorem resource?_add_of_ne {c : Catalog} {r : Resource} {id : String} (h : id ≠ r.id) :
    (c.add r).2.resource? id = c.resource? id :=
  Dictionary.get?_insert_of_ne h.symm r c.resources

/-- The ids are those under which there is a resource. -/
theorem mem_ids_iff {c : Catalog} {id : String} : id ∈ c.ids ↔ (c.resource? id).isSome :=
  Dictionary.isSome_get?_iff.symm

-- ==================================================== changed messages

/-- A catalog with every message changed. -/
def mapMessages (f : Message → Message) (c : Catalog) : Catalog :=
  { c with resources := c.resources.map fun q => (q.1, q.2.mapMessages f) }

theorem resource?_mapMessages {f : Message → Message} (c : Catalog) (id : String) :
    (c.mapMessages f).resource? id = (c.resource? id).map (Resource.mapMessages f) :=
  Dictionary.get?_map (fun _ => Resource.mapMessages f) id c.resources

/-- Under every resource and path the changed message is found. -/
theorem lookup_mapMessages {f : Message → Message} (c : Catalog) (resource : Option String)
    (path : List String) :
    (c.mapMessages f).lookup resource path = (c.lookup resource path).map f := by
  cases resource with
  | none => rfl
  | some id =>
      unfold lookup
      rw [Option.bind_some, Option.bind_some, resource?_mapMessages]
      cases c.resource? id with
      | none => rfl
      | some r => exact r.message?_mapMessages path

end Catalog

end MessageCatalog
