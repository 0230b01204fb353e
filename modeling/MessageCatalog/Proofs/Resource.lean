/-
What lies under a path.

There are two ways through the tree of a resource: along a path to one
message, and all around to list every message with its path. What the
first way finds the second one lists (`Resource.mem_messages`). If every
message of the tree is changed, the first way finds the changed message
(`Resource.message?_mapMessages`).

As a text a path loses where its names begin and end, unless no name has
a point (`dotted_injective`).
-/
import MessageCatalog.Resource

namespace MessageCatalog

variable {m : Message} {path : List String}

/-- The walk around a group meets what the walks around its entries
meet. -/
theorem mem_messagesOfEntries {before : List String} {entries : List (String × Entry)}
    {q : List String × Message} : q ∈ messagesOfEntries before entries ↔
      ∃ p ∈ entries, q ∈ p.2.messages (before ++ [p.1]) := by
  induction entries with
  | nil => simp [messagesOfEntries]
  | cons first rest ih => simp [messagesOfEntries, ih]

/-- The message at a path is met on the walk around its entry. The
induction follows the path, which leaves a group at each name. -/
theorem Entry.mem_messages {e : Entry} (h : e.at? path = some (.message m))
    (before : List String) : (before ++ path, m) ∈ e.messages before := by
  induction path generalizing e before with
  | nil =>
      cases h
      rw [List.append_nil]
      exact List.mem_singleton_self _
  | cons name rest ih =>
      cases e with
      | message m' => exact nomatch h
      | group entries =>
          rw [Entry.at?] at h
          obtain ⟨next, hget, hnext⟩ := Option.bind_eq_some_iff.mp h
          have hlisted := ih hnext (before ++ [name])
          rw [List.append_assoc] at hlisted
          rw [Entry.messages]
          exact mem_messagesOfEntries.mpr ⟨_, Dictionary.mem_of_get? hget, hlisted⟩

namespace Resource

/-- A resource is entered like a group. -/
theorem entryAt?_cons (r : Resource) (name : String) (rest : List String) :
    r.entryAt? (name :: rest) = (Entry.group r.entries).at? (name :: rest) := by
  rw [Entry.at?]
  rfl

/-- The message at a path is listed with it. -/
theorem mem_messages {r : Resource} (h : r.message? path = some m) : (path, m) ∈ r.messages := by
  obtain ⟨e, hentry, hmessage⟩ := Option.bind_eq_some_iff.mp h
  cases e with
  | group entries => exact nomatch hmessage
  | message m' =>
      cases hmessage
      cases path with
      | nil => exact nomatch hentry
      | cons name rest =>
          rw [entryAt?_cons] at hentry
          have hlisted := Entry.mem_messages hentry []
          rw [Entry.messages] at hlisted
          exact hlisted

end Resource

-- ======================================================= paths as texts

/-- Without points in the segments, the dotted path determines the path. -/
theorem dotted_injective {p q : List String} (hp : p ≠ []) (hq : q ≠ [])
    (hps : ∀ s ∈ p, '.' ∉ s.toList) (hqs : ∀ s ∈ q, '.' ∉ s.toList)
    (h : dotted p = dotted q) : p = q := by
  have hchars : ['.'].intercalate (p.map String.toList)
      = ['.'].intercalate (q.map String.toList) := by
    have htoList := congrArg String.toList h
    unfold dotted at htoList
    rwa [String.toList_intercalate, String.toList_intercalate] at htoList
  -- No segment has a point of its own, so splitting at the points gives
  -- back the segments.
  have hsplit := congrArg (List.splitOn '.') hchars
  rw [List.splitOn_intercalate '.' (by simpa using hps) (by simpa using hp),
    List.splitOn_intercalate '.' (by simpa using hqs) (by simpa using hq)] at hsplit
  exact (List.map_inj_right fun _ _ => String.toList_inj.mp).mp hsplit

-- ==================================================== changed messages

mutual

/-- An entry with every message changed. -/
def Entry.mapMessages (f : Message → Message) : Entry → Entry
  | .message m => .message (f m)
  | .group entries => .group (mapMessagesOfEntries f entries)

/-- Entries with every message changed. -/
def mapMessagesOfEntries (f : Message → Message) : List (String × Entry) → List (String × Entry)
  | [] => []
  | (name, e) :: rest => (name, e.mapMessages f) :: mapMessagesOfEntries f rest

end

variable {f : Message → Message}

mutual

/-- An entry stays the same exactly if its messages do. -/
theorem Entry.mapMessages_eq_iff (before : List String) : ∀ e : Entry,
    e.mapMessages f = e ↔ ∀ q ∈ e.messages before, f q.2 = q.2
  | .message m => by simp [Entry.mapMessages, Entry.messages]
  | .group entries => by
      rw [Entry.mapMessages, Entry.group.injEq, Entry.messages, mapMessagesOfEntries_eq_iff before]

theorem mapMessagesOfEntries_eq_iff (before : List String) : ∀ entries : List (String × Entry),
    mapMessagesOfEntries f entries = entries
      ↔ ∀ q ∈ messagesOfEntries before entries, f q.2 = q.2
  | [] => by simp [mapMessagesOfEntries, messagesOfEntries]
  | (name, e) :: rest => by
      rw [mapMessagesOfEntries, List.cons.injEq, Prod.mk.injEq, messagesOfEntries,
        Entry.mapMessages_eq_iff (before ++ [name]) e, mapMessagesOfEntries_eq_iff before rest]
      simp only [true_and, List.forall_mem_append]

end

mutual

/-- The walk around a changed entry meets the changed messages. -/
theorem Entry.messages_mapMessages (before : List String) : ∀ e : Entry,
    (e.mapMessages f).messages before = (e.messages before).map fun q => (q.1, f q.2)
  | .message m => by simp [Entry.mapMessages, Entry.messages]
  | .group entries => by
      rw [Entry.mapMessages, Entry.messages, Entry.messages, messagesOfEntries_mapMessages before]

theorem messagesOfEntries_mapMessages (before : List String) : ∀ entries : List (String × Entry),
    messagesOfEntries before (mapMessagesOfEntries f entries)
      = (messagesOfEntries before entries).map fun q => (q.1, f q.2)
  | [] => rfl
  | (name, e) :: rest => by
      rw [mapMessagesOfEntries, messagesOfEntries, messagesOfEntries, List.map_append,
        Entry.messages_mapMessages (before ++ [name]) e, messagesOfEntries_mapMessages before rest]

end

theorem get?_mapMessagesOfEntries (name : String) (entries : List (String × Entry)) :
    Dictionary.get? name (mapMessagesOfEntries f entries)
      = (Dictionary.get? name entries).map (Entry.mapMessages f) := by
  induction entries with
  | nil => rfl
  | cons first rest ih =>
      obtain ⟨n, e⟩ := first
      rw [mapMessagesOfEntries, Dictionary.get?, Dictionary.get?]
      split
      · rfl
      · exact ih

theorem Entry.at?_mapMessages (e : Entry) (path : List String) :
    (e.mapMessages f).at? path = (e.at? path).map (Entry.mapMessages f) := by
  induction path generalizing e with
  | nil => cases e <;> rfl
  | cons name rest ih =>
      cases e with
      | message m => rfl
      | group entries =>
          rw [Entry.mapMessages, Entry.at?, Entry.at?, get?_mapMessagesOfEntries]
          cases Dictionary.get? name entries with
          | none => rfl
          | some next => exact ih next

namespace Resource

/-- A resource with every message changed. -/
def mapMessages (f : Message → Message) (r : Resource) : Resource :=
  { r with entries := mapMessagesOfEntries f r.entries }

/-- A resource stays the same exactly if its messages do. -/
theorem mapMessages_eq_iff (r : Resource) :
    r.mapMessages f = r ↔ ∀ q ∈ r.messages, f q.2 = q.2 := by
  cases r with
  | mk id locale entries =>
      rw [mapMessages, Resource.mk.injEq, messages, mapMessagesOfEntries_eq_iff []]
      simp

/-- The changed messages are listed. -/
theorem messages_mapMessages (r : Resource) :
    (r.mapMessages f).messages = r.messages.map fun q => (q.1, f q.2) :=
  messagesOfEntries_mapMessages [] r.entries

/-- Under every path lies the changed message. -/
theorem message?_mapMessages (r : Resource) (path : List String) :
    (r.mapMessages f).message? path = (r.message? path).map f := by
  cases path with
  | nil => rfl
  | cons name rest =>
      unfold message?
      rw [entryAt?_cons, entryAt?_cons]
      show (((Entry.group r.entries).mapMessages f).at? (name :: rest)).bind Entry.message? = _
      rw [Entry.at?_mapMessages]
      cases (Entry.group r.entries).at? (name :: rest) with
      | none => rfl
      | some e => cases e <;> rfl

end Resource

end MessageCatalog
