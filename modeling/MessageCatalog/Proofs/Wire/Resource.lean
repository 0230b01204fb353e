/-
Resources are read back from their texts.

A resource at the top of a text is read member by member. On a printed
text these steps meet the members that were printed, one each, so a
printed resource is read as its documents are
(`Resource.ofText_compact`). It is the same resource exactly if no
reference in it binds a value that is read as an element
(`Resource.reread_eq_iff`).

A resource that was itself read from a text can always be printed and
read again: whatever the text was, the resource is in order and its
document is not nested too deep (`Resource.settled_of_ofText`). Every
step of the reader keeps this of the entries read so far.
-/
import MessageCatalog.Proofs.Wire.Entry

namespace MessageCatalog

-- =============================================================== texts

namespace Json.Cursor

variable {σ : Type} {step : σ → String → Cursor → Except Fault (σ × Cursor)}

theorem eachMember_nil (fuel : Nat) (first : Bool) (s : σ) (rest : List Char) :
    Takes (eachMember step (fuel + 1) first s) (memberChars first [] ++ '\x7d' :: rest) s
      ('\x7d' :: rest) := fun place => ⟨place, rfl⟩

/-- A printed member is taken by one step, which begins behind its name. -/
theorem eachMember_cons {fuel : Nat} {first : Bool} {s s' s'' : σ} {name : String} {j : Json}
    {ms : List (String × Json)} {rest : List Char}
    (hstep : Takes (step s name) (':' :: (j.chars ++ (memberChars false ms ++ '\x7d' :: rest))) s'
      (memberChars false ms ++ '\x7d' :: rest))
    (hnext : Takes (eachMember step fuel false s') (memberChars false ms ++ '\x7d' :: rest) s''
      ('\x7d' :: rest)) :
    Takes (eachMember step (fuel + 1) first s)
      (memberChars first ((name, j) :: ms) ++ '\x7d' :: rest) s'' ('\x7d' :: rest) := by
  intro place
  obtain ⟨place₁, hname⟩ := nextName_name first name
    (':' :: (j.chars ++ (memberChars false ms ++ '\x7d' :: rest))) place
  obtain ⟨place₂, hstep⟩ := hstep place₁
  obtain ⟨after, hnext⟩ := hnext place₂
  refine ⟨after, ?_⟩
  rw [memberChars, List.append_assoc, List.append_assoc, List.cons_append, eachMember, hname]
  dsimp only [bind, Except.bind]
  rw [hstep]
  exact hnext

theorem memberChars_length (first : Bool) (ms : List (String × Json)) :
    ms.length ≤ (memberChars first ms).length := by
  induction ms generalizing first with
  | nil => exact Nat.zero_le _
  | cons m ms ih =>
      have hrest := ih false
      rw [memberChars, quote]
      simp only [List.length_append, List.length_cons]
      omega

/-- A quoted string is taken where a string is wanted. -/
theorem stringValue_quote (expected : String) (s : String) (rest : List Char) :
    Takes (stringValue expected) (quote s ++ rest) s rest := by
  intro place
  obtain ⟨after, hstring⟩ := string_quote s rest (place.after '\x22')
  refine ⟨after, ?_⟩
  rw [quote, List.cons_append, List.append_assoc, List.singleton_append, stringValue,
    skipBlanks_cons (by decide)]
  dsimp only [past]
  rw [if_pos rfl, hstring]

end Json.Cursor

open Json Json.Cursor

namespace Resource

/-- The step that takes one entry. -/
def entryStep (room : Nat) (entries : Dictionary Entry) (name : String) (c : Cursor) :
    Except Fault (Dictionary Entry × Cursor) := do
  let c ← c.colon
  let (j, c) ← c.document room
  match Entry.ofJson? j with
  | some e => return (Dictionary.insert name e entries, c)
  | none => c.faultInObject (.noAlternative "Entry")

theorem entryStep_takes {room : Nat} {j : Json} {e : Entry} (hroom : j.nesting ≤ room)
    (hnumbers : j.EveryNumber ReadsBack) (hread : Entry.ofJson? j = some e)
    (entries : Dictionary Entry) (name : String) {rest : List Char} (hrest : Ends rest) :
    Takes (entryStep room entries name) (':' :: (j.chars ++ rest)) (entries.insert name e)
      rest := by
  intro place
  obtain ⟨after, hdocument⟩ := document_chars hroom hnumbers hrest (place.after ':')
  refine ⟨after, ?_⟩
  rw [entryStep, colon_cons]
  dsimp only [bind, Except.bind]
  rw [hdocument]
  dsimp only
  rw [hread]
  rfl

theorem eachEntry_takes {room : Nat} : ∀ (members : List (String × Json))
    {entries : List (String × Entry)} {fuel : Nat} (first : Bool) (acc : Dictionary Entry)
    (rest : List Char), members.length < fuel →
    members.mapM (fun m => (Entry.ofJson? m.2).map fun e => (m.1, e)) = some entries →
    nestingOfMembers members ≤ room → EveryNumberOfMembers ReadsBack members →
    Takes (eachMember (entryStep room) fuel first acc) (memberChars first members ++ '\x7d' :: rest)
      (acc.override entries) ('\x7d' :: rest)
  | [], entries, fuel + 1, first, acc, rest, _, hentries, _, _ => by
      cases mapM_nil_iff.mp hentries
      exact eachMember_nil fuel first acc rest
  | (name, j) :: members, entries, fuel + 1, first, acc, rest, hfuel, hentries, hroom, hnumbers => by
      rw [nestingOfMembers] at hroom
      obtain ⟨_, others, hentry, hothers, rfl⟩ := mapM_cons_iff.mp hentries
      obtain ⟨e, he, rfl⟩ := Option.map_eq_some_iff.mp hentry
      exact eachMember_cons
        (entryStep_takes (by omega) hnumbers.1 he acc name (ends_memberChars _ rest))
        (eachEntry_takes members false _ rest (Nat.lt_of_succ_lt_succ hfuel) hothers (by omega)
          hnumbers.2)

/-- Printed entries are read as their documents are. -/
theorem readEntries_takes {room : Nat} {members : List (String × Json)} {entries : Dictionary Entry}
    (hentries : dictionary? Entry.ofJson? members = some entries)
    (hroom : nestingOfMembers members ≤ room)
    (hnumbers : EveryNumberOfMembers ReadsBack members) (rest : List Char) :
    Takes (readEntries (room + 1)) ((Json.object members).chars ++ rest) entries rest := by
  intro place
  obtain ⟨pairs, hpairs, rfl⟩ := Option.map_eq_some_iff.mp hentries
  have hfuel : members.length
      < fuel ⟨memberChars true members ++ '\x7d' :: rest, place.after '\x7b'⟩ := by
    have hlength := memberChars_length true members
    rw [fuel, List.length_append]
    omega
  obtain ⟨after, heach⟩ := eachEntry_takes members true [] rest hfuel hpairs hroom hnumbers
    (place.after '\x7b')
  refine ⟨after.after '\x7d', ?_⟩
  rw [chars, List.cons_append, List.append_assoc, List.singleton_append, readEntries,
    skipBlanks_cons (by decide)]
  dsimp only [past]
  rw [if_pos rfl]
  show (eachMember (entryStep room) _ true [] _ >>= _) = _
  dsimp only [past]
  rw [heach]
  rfl

section Members

variable {d : Draft}

theorem readMember_id (room : Nat) (hd : d.id = none) (id : String) (rest : List Char) :
    Takes (readMember room d "id") (':' :: (quote id ++ rest)) { d with id := some id } rest := by
  intro place
  obtain ⟨after, hstring⟩ := stringValue_quote "a string" id rest (place.after ':')
  refine ⟨after, ?_⟩
  rw [readMember, if_pos rfl, hd, Option.isSome_none,
    if_neg Bool.false_ne_true, colon_cons]
  show (stringValue "a string" _ >>= _) = _
  rw [hstring]
  rfl

theorem readMember_locale (room : Nat) (hd : d.locale = none) (locale : String)
    (rest : List Char) :
    Takes (readMember room d "locale") (':' :: (quote locale ++ rest))
      { d with locale := some locale } rest := by
  intro place
  obtain ⟨after, hstring⟩ := stringValue_quote "a string" locale rest (place.after ':')
  refine ⟨after, ?_⟩
  rw [readMember, if_neg (by decide), if_pos rfl, hd, Option.isSome_none,
    if_neg Bool.false_ne_true, colon_cons]
  show (stringValue "a string" _ >>= _) = _
  rw [hstring]
  rfl

theorem readMember_entries {room : Nat} (hd : d.entries = none) {j : Json}
    {entries : Dictionary Entry} {rest : List Char}
    (hread : Takes (readEntries room) (j.chars ++ rest) entries rest) :
    Takes (readMember room d "entries") (':' :: (j.chars ++ rest))
      { d with entries := some entries } rest := by
  intro place
  obtain ⟨after, hread⟩ := hread (place.after ':')
  refine ⟨after, ?_⟩
  rw [readMember, if_neg (by decide), if_neg (by decide), if_pos rfl, hd, Option.isSome_none,
    if_neg Bool.false_ne_true, colon_cons]
  show (readEntries room _ >>= _) = _
  rw [hread]
  rfl

end Members

/-- The members of a resource with the given entries. -/
def fields (id locale : String) (members : List (String × Json)) : List (String × Json) :=
  [("id", .string id), ("locale", .string locale), ("entries", .object members)]

/-- The printed members of a resource are read as their documents are. -/
theorem readMembers_takes {room : Nat} (id locale : String) {members : List (String × Json)}
    {entries : Dictionary Entry} (hentries : dictionary? Entry.ofJson? members = some entries)
    (hroom : nestingOfMembers members ≤ room)
    (hnumbers : EveryNumberOfMembers ReadsBack members) (rest : List Char) :
    Takes (readMembers (room + 1)) (memberChars true (fields id locale members) ++ '\x7d' :: rest)
      ⟨id, locale, entries⟩ ('\x7d' :: rest) := by
  intro place
  have htakes : ∀ fuel,
      Takes (eachMember (readMember (room + 1)) (fuel + 4) true ⟨none, none, none⟩)
      (memberChars true (fields id locale members) ++ '\x7d' :: rest)
      ⟨some id, some locale, some entries⟩ ('\x7d' :: rest) := fun fuel =>
    eachMember_cons (readMember_id (d := ⟨none, none, none⟩) _ rfl id _) <|
    eachMember_cons (readMember_locale (d := ⟨some id, none, none⟩) _ rfl locale _) <|
    eachMember_cons (readMember_entries (d := ⟨some id, some locale, none⟩) rfl
      (readEntries_takes hentries hroom hnumbers _)) <|
    eachMember_nil fuel false _ rest
  generalize memberChars true (fields id locale members) = text at htakes ⊢
  obtain ⟨fuel, hfuel⟩ : ∃ fuel, Cursor.fuel ⟨text ++ '\x7d' :: rest, place⟩ = fuel + 4 := by
    refine ⟨2 * text.length + 2 * rest.length, ?_⟩
    rw [Cursor.fuel, List.length_append, List.length_cons]
    omega
  obtain ⟨after, heach⟩ := htakes fuel place
  refine ⟨after, ?_⟩
  rw [readMembers, hfuel, heach]
  rfl

/-- A resource in a printed document is read as its documents are. -/
theorem ofText_fields {id locale : String} {members : List (String × Json)}
    {entries : Dictionary Entry} (hentries : dictionary? Entry.ofJson? members = some entries)
    (hnesting : (Json.object (fields id locale members)).nesting ≤ maxNesting)
    (hnumbers : (Json.object (fields id locale members)).EveryNumber ReadsBack) :
    ofText (compact (.object (fields id locale members))) = .ok ⟨id, locale, entries⟩ := by
  have hroom : nestingOfMembers members ≤ 125 := by
    simp only [fields, nesting, nestingOfMembers, maxNesting] at hnesting
    omega
  obtain ⟨after, hmembers⟩ := readMembers_takes id locale hentries hroom hnumbers.2.2.1 []
    (Place.start.after '\x7b')
  unfold ofText compact
  rw [String.toList_ofList, chars, Cursor.start, record, skipBlanks_cons (by decide)]
  dsimp only [past, enter, maxNesting]
  rw [if_pos rfl]
  show ((readMembers 126 _ >>= _) >>= _) = _
  rw [hmembers]
  rfl

/-- All dictionaries in a resource are in order. -/
def Ordered (r : Resource) : Prop := Dictionary.Ordered r.entries ∧ OrderedEntries r.entries

/-- A printed resource is read as its documents are: entry by entry, and
every message as what its document is read as. -/
theorem ofText_compact {r : Resource} (hordered : r.Ordered)
    (hnesting : r.toJson.nesting ≤ maxNesting) (hnumbers : r.toJson.EveryNumber ReadsBack) :
    ofText (compact r.toJson) = .ok (r.mapMessages Message.reread) :=
  ofText_fields (Entry.dictionary?_toMembers hordered.1 hordered.2) hnesting hnumbers

/-- A resource comes back exactly if no reference in it binds a value that
is read as an element. -/
theorem reread_eq_iff {r : Resource} (h : r.Ordered) :
    r.mapMessages Message.reread = r ↔ ∀ q ∈ r.messages, q.2.EveryReference .PlainValues := by
  rw [mapMessages_eq_iff]
  exact forall₂_congr fun q hq =>
    Message.reread_eq_iff (ordered_messagesOfEntries [] r.entries h.2 q hq)

end Resource

-- ========================================================= what is read

namespace Json.Cursor

variable {σ α : Type}

/-- What every step keeps, the members together keep. -/
theorem eachMember_invariant {P : σ → Prop} {step : σ → String → Cursor → Except Fault (σ × Cursor)}
    (hstep : ∀ {s name c s' c'}, P s → step s name c = .ok (s', c') → P s') :
    ∀ {fuel : Nat} {first : Bool} {s s' : σ} {c c' : Cursor}, P s →
      eachMember step fuel first s c = .ok (s', c') → P s'
  | fuel + 1, first, s, s', c, c', hs, h => by
      rw [eachMember] at h
      obtain ⟨⟨name?, c₁⟩, -, h⟩ := ok_of_bind h
      dsimp only at h
      split at h
      · cases h
        exact hs
      · obtain ⟨⟨s₁, c₂⟩, hone, h⟩ := ok_of_bind h
        exact eachMember_invariant hstep (hstep hs hone) h

theorem faultInObject_ne_ok {c : Cursor} {p : Problem} {x : α} : c.faultInObject p ≠ .ok x := by
  intro h
  unfold faultInObject at h
  dsimp only at h
  split at h
  · split at h <;> exact nomatch h
  · exact nomatch h

theorem faultInArray_ne_ok {c : Cursor} {p : Problem} {x : α} : c.faultInArray p ≠ .ok x := by
  intro h
  unfold faultInArray at h
  dsimp only at h
  split at h
  · split at h
    · exact nomatch h
    · split at h <;> exact nomatch h
  · exact nomatch h

theorem wrongType_ne_ok {c : Cursor} {expected : String} {x : α} :
    c.wrongType expected ≠ .ok x := by
  intro h
  unfold wrongType at h
  dsimp only at h
  split at h
  · cases h
  · split at h
    · cases h
    split at h
    · cases h
    · obtain ⟨_, -, h⟩ := ok_of_bind h
      cases h

theorem room_of_enter {room inner : Nat} {ch : Char} {rest : List Char} {c c' : Cursor}
    (h : enter room ch rest c = .ok (inner, c')) : room = inner + 1 := by
  cases room with
  | zero => exact nomatch h
  | succ room =>
      cases h
      rfl

/-- A record that is read is an object or an array, in which one nesting
less is left. -/
theorem record_cases {room : Nat} {expected : String}
    {ofObject ofArray : (room : Nat) → Cursor → Except Fault (α × Cursor)} {c c' : Cursor} {x : α}
    (h : record room expected ofObject ofArray c = .ok (x, c')) :
    ∃ inner c₁ c₂, room = inner + 1 ∧
      (ofObject inner c₁ = .ok (x, c₂) ∨ ofArray inner c₁ = .ok (x, c₂)) := by
  unfold record at h
  dsimp only at h
  split at h
  · cases h
  · split at h
    · obtain ⟨⟨inner, c₁⟩, henter, h⟩ := ok_of_bind h
      obtain ⟨⟨x', c₂⟩, hx, h⟩ := ok_of_bind h
      obtain ⟨c₃, -, h⟩ := ok_of_bind h
      cases h
      exact ⟨inner, c₁, c₂, room_of_enter henter, .inl hx⟩
    split at h
    · obtain ⟨⟨inner, c₁⟩, henter, h⟩ := ok_of_bind h
      obtain ⟨⟨x', c₂⟩, hx, h⟩ := ok_of_bind h
      obtain ⟨c₃, -, h⟩ := ok_of_bind h
      cases h
      exact ⟨inner, c₁, c₂, room_of_enter henter, .inr hx⟩
    · exact absurd h wrongType_ne_ok

end Json.Cursor

namespace Resource

theorem entryStep_settled {room : Nat} {entries entries' : Dictionary Entry} {name : String}
    {c c' : Cursor} (hentries : SettledEntries room entries)
    (h : entryStep room entries name c = .ok (entries', c')) : SettledEntries room entries' := by
  unfold entryStep at h
  obtain ⟨c₁, -, h⟩ := ok_of_bind h
  obtain ⟨⟨j, c₂⟩, hj, h⟩ := ok_of_bind h
  dsimp only at h
  split at h
  · rename_i e he
    cases h
    obtain ⟨hordered, hnesting⟩ := Entry.settled j e he
    refine ⟨Dictionary.ordered_insert name e hentries.1, fun p hp => ?_⟩
    rcases Dictionary.mem_insert hp with rfl | hp
    · exact ⟨hordered, Nat.le_trans hnesting (json_nesting hj)⟩
    · exact hentries.2 p hp
  · exact absurd h faultInObject_ne_ok

theorem settledEntries_nil (room : Nat) : SettledEntries room [] :=
  ⟨Dictionary.ordered_nil, fun _ hp => nomatch hp⟩

theorem readEntries_settled {room : Nat} {entries : Dictionary Entry} {c c' : Cursor}
    (h : readEntries (room + 1) c = .ok (entries, c')) : SettledEntries room entries := by
  unfold readEntries at h
  dsimp only at h
  split at h
  · split at h
    · obtain ⟨⟨inner, c₁⟩, henter, h⟩ := ok_of_bind h
      obtain ⟨⟨entries', c₂⟩, heach, h⟩ := ok_of_bind h
      obtain ⟨c₃, -, h⟩ := ok_of_bind h
      cases h
      cases room_of_enter henter
      exact eachMember_invariant entryStep_settled (settledEntries_nil room) heach
    · exact absurd h wrongType_ne_ok
  · exact absurd h wrongType_ne_ok

/-- The entries that have been read so far, if any, are settled. -/
def Draft.Settled (room : Nat) (d : Draft) : Prop :=
  ∀ entries, d.entries = some entries → SettledEntries room entries

theorem readMember_settled {room : Nat} {d d' : Draft} {name : String} {c c' : Cursor}
    (hd : d.Settled room) (h : readMember (room + 1) d name c = .ok (d', c')) :
    d'.Settled room := by
  unfold readMember at h
  split at h
  · split at h
    · exact absurd h faultInObject_ne_ok
    · obtain ⟨c₁, -, h⟩ := ok_of_bind h
      obtain ⟨⟨id, c₂⟩, -, h⟩ := ok_of_bind h
      cases h
      exact hd
  split at h
  · split at h
    · exact absurd h faultInObject_ne_ok
    · obtain ⟨c₁, -, h⟩ := ok_of_bind h
      obtain ⟨⟨locale, c₂⟩, -, h⟩ := ok_of_bind h
      cases h
      exact hd
  split at h
  · split at h
    · exact absurd h faultInObject_ne_ok
    · obtain ⟨c₁, -, h⟩ := ok_of_bind h
      obtain ⟨⟨entries, c₂⟩, hentries, h⟩ := ok_of_bind h
      cases h
      intro entries' heq
      cases heq
      exact readEntries_settled hentries
  · obtain ⟨c₁, -, h⟩ := ok_of_bind h
    obtain ⟨c₂, -, h⟩ := ok_of_bind h
    cases h
    exact hd

theorem readMembers_settled {room : Nat} {r : Resource} {c c' : Cursor}
    (h : readMembers (room + 1) c = .ok (r, c')) : SettledEntries room r.entries := by
  obtain ⟨⟨d, c₁⟩, heach, h⟩ := ok_of_bind h
  have hnone : Draft.Settled room ⟨none, none, none⟩ := fun _ h => nomatch h
  have hd : d.Settled room := eachMember_invariant readMember_settled hnone heach
  dsimp only at h
  split at h
  · exact absurd h faultInObject_ne_ok
  · split at h
    · exact absurd h faultInObject_ne_ok
    · cases h
      dsimp only
      cases hentries : d.entries with
      | none => exact settledEntries_nil room
      | some entries => exact hd entries hentries

theorem readItems_settled {room : Nat} {r : Resource} {c c' : Cursor}
    (h : readItems (room + 1) c = .ok (r, c')) : SettledEntries room r.entries := by
  obtain ⟨⟨more, c₁⟩, -, h⟩ := ok_of_bind h
  dsimp only at h
  split at h
  · exact absurd h faultInArray_ne_ok
  obtain ⟨⟨id, c₂⟩, -, h⟩ := ok_of_bind h
  obtain ⟨⟨more', c₃⟩, -, h⟩ := ok_of_bind h
  dsimp only at h
  split at h
  · exact absurd h faultInArray_ne_ok
  obtain ⟨⟨locale, c₄⟩, -, h⟩ := ok_of_bind h
  obtain ⟨⟨more'', c₅⟩, -, h⟩ := ok_of_bind h
  dsimp only at h
  split at h
  · cases h
    exact settledEntries_nil room
  · obtain ⟨⟨entries, c₆⟩, hentries, h⟩ := ok_of_bind h
    cases h
    exact readEntries_settled hentries

/-- A resource that was read is in order and can be printed and read
again. -/
theorem settled_of_ofText {text : String} {r : Resource} (h : ofText text = .ok r) :
    r.Ordered ∧ r.toJson.nesting ≤ maxNesting := by
  obtain ⟨⟨r', c⟩, hrecord, h⟩ := ok_of_bind h
  obtain ⟨rfl, -⟩ := finish_eq_ok h
  obtain ⟨room, c₁, c₂, hroom, hread⟩ := record_cases hrecord
  cases (Nat.succ.inj hroom : 126 = room)
  have hsettled : SettledEntries 125 r'.entries := hread.elim readMembers_settled readItems_settled
  refine ⟨⟨hsettled.1, orderedEntries_iff.mpr fun p hp => (hsettled.2 p hp).1⟩, ?_⟩
  have hnesting := hsettled.nesting
  simp only [toJson, nesting, nestingOfMembers, maxNesting]
  omega

end Resource

end MessageCatalog
