/-
Entries are read back.

The document of an entry is read as the entry with every message as what
its document is read as (`Entry.ofJson?_toJson`). Like elements, entries
that are read are in order and nested no deeper than their documents
(`Entry.settled`).
-/
import MessageCatalog.Proofs.Resource
import MessageCatalog.Proofs.Wire.Settled

namespace MessageCatalog

-- ============================================================= entries

mutual

/-- All dictionaries in an entry are in order. -/
def Entry.Ordered : Entry → Prop
  | .message m => m.Ordered
  | .group entries => Dictionary.Ordered entries ∧ OrderedEntries entries

/-- All dictionaries in entries are in order. -/
def OrderedEntries : List (String × Entry) → Prop
  | [] => True
  | (_, e) :: rest => e.Ordered ∧ OrderedEntries rest

end

theorem mapMessagesOfEntries_names (f : Message → Message) (entries : List (String × Entry)) :
    (mapMessagesOfEntries f entries).map Prod.fst = entries.map Prod.fst := by
  induction entries with
  | nil => rfl
  | cons first rest ih => rw [mapMessagesOfEntries, List.map_cons, List.map_cons, ih]

theorem ordered_mapMessagesOfEntries {f : Message → Message} {entries : List (String × Entry)}
    (h : Dictionary.Ordered entries) : Dictionary.Ordered (mapMessagesOfEntries f entries) := by
  rw [Dictionary.ordered_iff_names, mapMessagesOfEntries_names]
  exact Dictionary.ordered_iff_names.mp h

namespace Entry

mutual

/-- The document of an entry is read as an entry. -/
theorem ofJson?_toJson : ∀ e : Entry, e.Ordered →
    ofJson? e.toJson = some (e.mapMessages Message.reread)
  | .message m, h => by
      rw [ofJson?_eq, toJson, Message.ofJson?_toJson h]
      rfl
  | .group entries, h => by
      have hmessage : Message.ofJson? (Entry.group entries).toJson = none := rfl
      have hgroup : asGroup? ofJson? (Entry.group entries).toJson
          = some (.group (mapMessagesOfEntries Message.reread entries)) := by
        show (Json.dictionary? ofJson? (toMembers entries)).bind _ = _
        rw [dictionary?_toMembers h.1 h.2]
        rfl
      rw [ofJson?_eq, hmessage, hgroup]
      rfl

theorem mapM_toMembers : ∀ entries : List (String × Entry), OrderedEntries entries →
    (toMembers entries).mapM (fun m => (ofJson? m.2).map fun x => (m.1, x))
      = some (mapMessagesOfEntries Message.reread entries)
  | [], _ => rfl
  | (name, e) :: rest, h =>
    mapM_cons_iff.mpr ⟨_, _, by rw [ofJson?_toJson e h.1]; rfl, mapM_toMembers rest h.2, rfl⟩

theorem dictionary?_toMembers {entries : Dictionary Entry} (h : entries.Ordered)
    (hentries : OrderedEntries entries) :
    Json.dictionary? ofJson? (toMembers entries)
      = some (mapMessagesOfEntries Message.reread entries) := by
  rw [Json.dictionary?, mapM_toMembers entries hentries, Option.map_some,
    Dictionary.ofList_of_ordered (ordered_mapMessagesOfEntries h)]

end

end Entry

mutual

/-- The messages of an entry in order are in order. -/
theorem Entry.ordered_messages (before : List String) : ∀ e : Entry, e.Ordered →
    ∀ q ∈ e.messages before, q.2.Ordered
  | .message m, h, q, hq => by
      cases List.mem_singleton.mp hq
      exact h
  | .group entries, h, q, hq => ordered_messagesOfEntries before entries h.2 q hq

theorem ordered_messagesOfEntries (before : List String) : ∀ entries : List (String × Entry),
    OrderedEntries entries → ∀ q ∈ messagesOfEntries before entries, q.2.Ordered
  | [], _, _, hq => nomatch hq
  | (name, e) :: rest, h, q, hq => by
      rw [messagesOfEntries] at hq
      rcases List.mem_append.mp hq with hq | hq
      · exact Entry.ordered_messages (before ++ [name]) e h.1 q hq
      · exact ordered_messagesOfEntries before rest h.2 q hq

end

theorem orderedEntries_iff {entries : List (String × Entry)} :
    OrderedEntries entries ↔ ∀ p ∈ entries, p.2.Ordered := by
  induction entries with
  | nil => simp [OrderedEntries]
  | cons p entries ih => simp [OrderedEntries, ih]

open Json (nestingOfMembers nestingOfMembers_le_iff)

/-- Entries under names are in order, and their documents are nested at
most so deep. -/
def SettledEntries (n : Nat) (entries : Dictionary Entry) : Prop :=
  entries.Ordered ∧ ∀ p ∈ entries, p.2.Ordered ∧ p.2.toJson.nesting ≤ n

theorem SettledEntries.nesting {n : Nat} {entries : Dictionary Entry}
    (h : SettledEntries n entries) : nestingOfMembers (Entry.toMembers entries) ≤ n := by
  have hmembers : ∀ p ∈ entries, p.2.toJson.nesting ≤ n := fun p hp => (h.2 p hp).2
  clear h
  induction entries with
  | nil => exact Nat.zero_le _
  | cons p entries ih =>
      exact max_le (hmembers p (List.mem_cons_self ..))
        (ih fun q hq => hmembers q (List.mem_cons_of_mem _ hq))

/-- Entries that are read are settled if every one of them is. -/
theorem settledEntries_of_dictionary? {members : List (String × Json)} {entries : Dictionary Entry}
    (h : Json.dictionary? Entry.ofJson? members = some entries)
    (hmembers : ∀ m ∈ members, ∀ e, Entry.ofJson? m.2 = some e →
      e.Ordered ∧ e.toJson.nesting ≤ m.2.nesting) :
    SettledEntries (nestingOfMembers members) entries := by
  refine ⟨Json.ordered_of_dictionary? h, fun p hp => ?_⟩
  obtain ⟨m, hm, hread⟩ := Json.mem_of_dictionary? h hp
  obtain ⟨hordered, hnesting⟩ := hmembers m hm p.2 hread
  exact ⟨hordered, Nat.le_trans hnesting (nestingOfMembers_le_iff.mp (Nat.le_refl _) m hm)⟩

namespace Entry

/-- An entry is settled if what is read below its document is. -/
theorem settled_of_readFrom {j : Json} {e : Entry} (hbelow : ∀ k : Json, k.levels < j.levels →
      ∀ e, ofJson? k = some e → e.Ordered ∧ e.toJson.nesting ≤ k.nesting)
    (h : ReadFrom j e) : e.Ordered ∧ e.toJson.nesting ≤ j.nesting := by
  cases h with
  | asMessage h => exact Message.settled h
  | asGroup hinside hentries =>
      have hsettled := settledEntries_of_dictionary? hentries fun m hm =>
        hbelow m.2 (Nat.lt_trans (Json.Inside.member hm).levels hinside.levels)
      have hlt := hinside.nesting
      rw [Json.nesting] at hlt
      have hmembers := hsettled.nesting
      refine ⟨⟨hsettled.1, orderedEntries_iff.mpr fun p hp => (hsettled.2 p hp).1⟩, ?_⟩
      simp only [toJson, Json.nesting, nestingOfMembers]
      omega

/-- What is read as an entry is in order, and nested no deeper than its
document. -/
theorem settled (j : Json) : ∀ e, ofJson? j = some e →
    e.Ordered ∧ e.toJson.nesting ≤ j.nesting :=
  ofJson?_induction settled_of_readFrom j

end Entry

end MessageCatalog
