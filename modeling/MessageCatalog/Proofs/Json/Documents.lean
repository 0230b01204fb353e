/-
Printed documents are read back.

A document comes back from its compact form if its numbers do and it is
not nested too deep (`ofText_compact`). The induction follows the
document, its items and its members, and says more: a printed document is
read as it was wherever it stands, unless what follows continues a number
(`json_chars`, `items_chars`, `members_chars`). The reader has fuel for
every character that was printed.
-/
import MessageCatalog.Proofs.Json.Numbers

namespace MessageCatalog.Json

mutual

/-- How deep the arrays and objects of a document are nested. -/
def nesting : Json → Nat
  | .array items => nestingOfItems items + 1
  | .object members => nestingOfMembers members + 1
  | _ => 0

/-- The nesting of the deepest item. -/
def nestingOfItems : List Json → Nat
  | [] => 0
  | j :: rest => max (nesting j) (nestingOfItems rest)

/-- The nesting of the deepest member. -/
def nestingOfMembers : List (String × Json) → Nat
  | [] => 0
  | (_, j) :: rest => max (nesting j) (nestingOfMembers rest)

end

theorem nestingOfItems_le_iff {js : List Json} {n : Nat} :
    nestingOfItems js ≤ n ↔ ∀ j ∈ js, j.nesting ≤ n := by
  induction js with
  | nil => simp [nestingOfItems]
  | cons j js ih => simp [nestingOfItems, ih]

theorem nestingOfMembers_le_iff {ms : List (String × Json)} {n : Nat} :
    nestingOfMembers ms ≤ n ↔ ∀ m ∈ ms, m.2.nesting ≤ n := by
  induction ms with
  | nil => simp [nestingOfMembers]
  | cons m ms ih => simp [nestingOfMembers, ih]

theorem nestingOfMembers_append (ms ms' : List (String × Json)) :
    nestingOfMembers (ms ++ ms') = max (nestingOfMembers ms) (nestingOfMembers ms') := by
  induction ms with
  | nil => exact (Nat.zero_max _).symm
  | cons m ms ih => rw [List.cons_append, nestingOfMembers, nestingOfMembers, ih, Nat.max_assoc]

mutual

/-- All numbers of a document are decimals with a property. -/
def EveryNumber (p : Float → Prop) : Json → Prop
  | .integer _ => False
  | .decimal x => p x
  | .array items => EveryNumberOfItems p items
  | .object members => EveryNumberOfMembers p members
  | _ => True

/-- All numbers of documents are decimals with a property. -/
def EveryNumberOfItems (p : Float → Prop) : List Json → Prop
  | [] => True
  | j :: rest => EveryNumber p j ∧ EveryNumberOfItems p rest

/-- All numbers of members are decimals with a property. -/
def EveryNumberOfMembers (p : Float → Prop) : List (String × Json) → Prop
  | [] => True
  | (_, j) :: rest => EveryNumber p j ∧ EveryNumberOfMembers p rest

end

section EveryNumber

variable {p q : Float → Prop}

mutual

theorem EveryNumber.mp : ∀ {j : Json}, j.EveryNumber (fun x => p x → q x) → j.EveryNumber p →
    j.EveryNumber q
  | .null, _, _ => trivial
  | .bool _, _, _ => trivial
  | .integer _, h, _ => h.elim
  | .decimal _, h, hp => h hp
  | .string _, _, _ => trivial
  | .array _, h, hp => EveryNumberOfItems.mp h hp
  | .object _, h, hp => EveryNumberOfMembers.mp h hp

theorem EveryNumberOfItems.mp : ∀ {js : List Json}, EveryNumberOfItems (fun x => p x → q x) js →
    EveryNumberOfItems p js → EveryNumberOfItems q js
  | [], _, _ => trivial
  | _ :: _, h, hp => ⟨h.1.mp hp.1, h.2.mp hp.2⟩

theorem EveryNumberOfMembers.mp : ∀ {ms : List (String × Json)},
    EveryNumberOfMembers (fun x => p x → q x) ms → EveryNumberOfMembers p ms →
    EveryNumberOfMembers q ms
  | [], _, _ => trivial
  | _ :: _, h, hp => ⟨h.1.mp hp.1, h.2.mp hp.2⟩

end

mutual

/-- A property of numbers that can be decided can be decided of all
numbers of a document. -/
def decideEveryNumber [DecidablePred p] : ∀ j : Json, Decidable (j.EveryNumber p)
  | .null => .isTrue trivial
  | .bool _ => .isTrue trivial
  | .integer _ => .isFalse id
  | .decimal x => inferInstanceAs (Decidable (p x))
  | .string _ => .isTrue trivial
  | .array js => decideEveryNumberOfItems js
  | .object ms => decideEveryNumberOfMembers ms

def decideEveryNumberOfItems [DecidablePred p] :
    ∀ js : List Json, Decidable (EveryNumberOfItems p js)
  | [] => .isTrue trivial
  | j :: js => @instDecidableAnd _ _ (decideEveryNumber j) (decideEveryNumberOfItems js)

def decideEveryNumberOfMembers [DecidablePred p] :
    ∀ ms : List (String × Json), Decidable (EveryNumberOfMembers p ms)
  | [] => .isTrue trivial
  | (_, j) :: ms => @instDecidableAnd _ _ (decideEveryNumber j) (decideEveryNumberOfMembers ms)

end

instance [DecidablePred p] (j : Json) : Decidable (j.EveryNumber p) := decideEveryNumber j

end EveryNumber

open Cursor

/-- What a document that holds no other begins with. -/
theorem scalarChars_begins {j : Json} {ch : Char} {text : List Char}
    (hj : j.scalarChars = ch :: text) (h : j.EveryNumber ReadsBack) :
    Begins ch ∧ ch ≠ '[' ∧ ch ≠ '\x7b' := by
  unfold Begins
  cases j with
  | null => cases hj; decide
  | bool b => cases b <;> cases hj <;> decide
  | integer n => exact h.elim
  | decimal x =>
      obtain ⟨⟨ch', text', htext, hch⟩, -⟩ := ReadsBack.reads h
      cases (htext.symm.trans hj : ch' :: text' = ch :: text)
      exact ⟨begins_number hch, ne_of_number hch (by decide), ne_of_number hch (by decide)⟩
  | string s => cases hj; decide
  | array items => exact nomatch hj
  | object members => exact nomatch hj

theorem chars_begins {j : Json} (h : j.EveryNumber ReadsBack) :
    ∃ ch text, j.chars = ch :: text ∧ Begins ch := by
  cases j with
  | null => exact ⟨_, _, rfl, (scalarChars_begins rfl h).1⟩
  | bool b => cases b <;> exact ⟨_, _, rfl, (scalarChars_begins rfl h).1⟩
  | integer n => exact h.elim
  | decimal x =>
      obtain ⟨⟨ch, text, htext, hch⟩, -⟩ := ReadsBack.reads h
      exact ⟨ch, text, htext, begins_number hch⟩
  | string s => exact ⟨_, _, rfl, (scalarChars_begins rfl h).1⟩
  | array items => exact ⟨_, _, by rw [chars], by unfold Begins; decide⟩
  | object members => exact ⟨_, _, by rw [chars], by unfold Begins; decide⟩

theorem ends_cons {ch : Char} (h : ¬Decimal.isDigit ch ∧ ch ≠ '.' ∧ ch ≠ 'e' ∧ ch ≠ 'E')
    (rest : List Char) : Ends (ch :: rest) := by
  intro ch' hch'
  cases hch'
  exact h

/-- A document that holds no other is read as it was printed. -/
theorem scalar_chars {j : Json} {ch : Char} {text rest : List Char}
    (hj : j.scalarChars = ch :: text)
    (h : j.EveryNumber ReadsBack) (hrest : Ends rest) (place : Place) :
    ∃ after, scalar ⟨ch :: (text ++ rest), place⟩ ch (text ++ rest) = .ok (j, ⟨rest, after⟩) := by
  cases j with
  | null =>
      cases hj
      exact ⟨_, rfl⟩
  | bool b =>
      cases b with
      | true =>
          cases hj
          exact ⟨_, rfl⟩
      | false =>
          cases hj
          exact ⟨_, rfl⟩
  | integer n => exact h.elim
  | decimal x =>
      obtain ⟨⟨ch', text', htext, hch⟩, hreads⟩ := ReadsBack.reads h
      cases (htext.symm.trans hj : ch' :: text' = ch :: text)
      rw [htext] at hreads
      obtain ⟨after, hnumber⟩ := hreads.followed rest hrest place
      refine ⟨after, ?_⟩
      unfold scalar
      rw [if_neg (ne_of_number hch (by decide)), if_neg (ne_of_number hch (by decide)),
        if_neg (ne_of_number hch (by decide)), if_pos hch]
      exact hnumber
  | string s =>
      cases hj
      obtain ⟨after, hstring⟩ := string_quote s rest (place.after '\x22')
      refine ⟨after, ?_⟩
      unfold scalar past
      rw [List.append_assoc, List.singleton_append]
      simp only [hstring]
      rfl
  | array items => exact nomatch hj
  | object members => exact nomatch hj

/-- A document that holds no other is read in one step. -/
theorem json_scalar {j : Json} (hj : j.chars = j.scalarChars) (fuel room : Nat)
    (h : j.EveryNumber ReadsBack) {rest : List Char} (hrest : Ends rest) :
    Takes (json (fuel + 1) room) (j.chars ++ rest) j rest := by
  intro place
  obtain ⟨ch, text, htext, -⟩ := chars_begins h
  obtain ⟨hbegins, harray, hobject⟩ := scalarChars_begins (hj.symm.trans htext) h
  obtain ⟨after, hscalar⟩ := scalar_chars (hj.symm.trans htext) h hrest place
  refine ⟨after, ?_⟩
  rw [htext, List.cons_append, json, skipBlanks_cons hbegins.1]
  dsimp only
  rw [if_neg harray, if_neg hobject]
  exact hscalar

theorem ends_itemChars (js : List Json) (rest : List Char) :
    Ends (itemChars false js ++ ']' :: rest) := by
  cases js with
  | nil => exact ends_cons (by decide) _
  | cons j js => exact ends_cons (by decide) _

theorem ends_memberChars (ms : List (String × Json)) (rest : List Char) :
    Ends (memberChars false ms ++ '\x7d' :: rest) := by
  cases ms with
  | nil => exact ends_cons (by decide) _
  | cons m ms => exact ends_cons (by decide) _

mutual

/-- A printed document is read as it was. -/
theorem json_chars : ∀ (j : Json) {fuel room : Nat} (rest : List Char),
    2 * j.chars.length ≤ fuel + 1 → j.nesting ≤ room → j.EveryNumber ReadsBack → Ends rest →
      Takes (json (fuel + 1) room) (j.chars ++ rest) j rest
  | .null, fuel, room, _, _, _, h, hrest => json_scalar rfl fuel room h hrest
  | .bool _, fuel, room, _, _, _, h, hrest => json_scalar rfl fuel room h hrest
  | .integer _, _, _, _, _, _, h, _ => h.elim
  | .decimal _, fuel, room, _, _, _, h, hrest => json_scalar rfl fuel room h hrest
  | .string _, fuel, room, _, _, _, h, hrest => json_scalar rfl fuel room h hrest
  | .array _, _, 0, _, _, hroom, _, _ => nomatch hroom
  | .array js, fuel, room + 1, rest, hfuel, hroom, h, _ => by
      intro place
      rw [chars, List.length_cons, List.length_append, List.length_singleton] at hfuel
      obtain ⟨after, hitems⟩ := items_chars js true rest (by omega : _ ≤ fuel)
        (Nat.le_of_succ_le_succ hroom) h (place.after '[')
      refine ⟨after, ?_⟩
      rw [chars, List.cons_append, List.append_assoc, List.singleton_append, json,
        skipBlanks_cons (by decide)]
      dsimp only [past]
      rw [if_pos rfl, hitems]
      rfl
  | .object _, _, 0, _, _, hroom, _, _ => nomatch hroom
  | .object ms, fuel, room + 1, rest, hfuel, hroom, h, _ => by
      intro place
      rw [chars, List.length_cons, List.length_append, List.length_singleton] at hfuel
      obtain ⟨after, hmembers⟩ := members_chars ms true rest (by omega : _ ≤ fuel)
        (Nat.le_of_succ_le_succ hroom) h (place.after '\x7b')
      refine ⟨after, ?_⟩
      rw [chars, List.cons_append, List.append_assoc, List.singleton_append, json,
        skipBlanks_cons (by decide)]
      dsimp only [past]
      rw [if_neg (by decide), if_pos rfl, hmembers]
      rfl

/-- Printed items are read as they were. -/
theorem items_chars : ∀ (js : List Json) (first : Bool) {fuel room : Nat} (rest : List Char),
    2 * (itemChars first js).length + 3 ≤ fuel → nestingOfItems js ≤ room →
      EveryNumberOfItems ReadsBack js →
      Takes (items fuel room first) (itemChars first js ++ ']' :: rest) js rest
  | [], first, fuel + 1, room, rest, _, _, _ => by
      intro place
      exact ⟨place.after ']', rfl⟩
  | j :: js, first, fuel + 2, room, rest, hfuel, hroom, h => by
      intro place
      rw [itemChars, List.length_append, List.length_append] at hfuel
      rw [nestingOfItems] at hroom
      obtain ⟨ch, text, htext, hbegins⟩ := chars_begins h.1
      have hlength : 1 ≤ j.chars.length := by rw [htext, List.length_cons]; omega
      obtain ⟨place₁, hnext⟩ := nextItem_item first hbegins
        (text ++ (itemChars false js ++ ']' :: rest)) place
      obtain ⟨place₂, hitem⟩ := json_chars j (itemChars false js ++ ']' :: rest)
        (by omega : _ ≤ fuel + 1) (by omega : _ ≤ room) h.1 (ends_itemChars js rest) place₁
      obtain ⟨after, hitems⟩ := items_chars js false rest
        (by omega : _ ≤ fuel + 1) (by omega : _ ≤ room) h.2 place₂
      refine ⟨after, ?_⟩
      rw [htext, List.cons_append] at hitem
      rw [itemChars, htext, List.append_assoc, List.append_assoc, List.cons_append, items, hnext]
      dsimp only [bind, Except.bind]
      rw [if_pos rfl, hitem]
      dsimp only [bind, Except.bind]
      rw [hitems]
      rfl

/-- Printed members are read as they were. -/
theorem members_chars : ∀ (ms : List (String × Json)) (first : Bool) {fuel room : Nat}
    (rest : List Char), 2 * (memberChars first ms).length + 3 ≤ fuel → nestingOfMembers ms ≤ room →
      EveryNumberOfMembers ReadsBack ms →
      Takes (members fuel room first) (memberChars first ms ++ '\x7d' :: rest) ms rest
  | [], first, fuel + 1, room, rest, _, _, _ => by
      intro place
      exact ⟨place.after '\x7d', rfl⟩
  | (name, j) :: ms, first, fuel + 2, room, rest, hfuel, hroom, h => by
      intro place
      rw [memberChars, List.length_append, List.length_append, List.length_cons] at hfuel
      rw [nestingOfMembers] at hroom
      obtain ⟨ch, text, htext, -⟩ := chars_begins h.1
      have hlength : 1 ≤ j.chars.length := by rw [htext, List.length_cons]; omega
      obtain ⟨place₁, hname⟩ := nextName_name first name
        (':' :: (j.chars ++ (memberChars false ms ++ '\x7d' :: rest))) place
      obtain ⟨place₂, hmember⟩ := json_chars j (memberChars false ms ++ '\x7d' :: rest)
        (by omega : _ ≤ fuel + 1) (by omega : _ ≤ room) h.1 (ends_memberChars ms rest)
        (place₁.after ':')
      obtain ⟨after, hmembers⟩ := members_chars ms false rest
        (by omega : _ ≤ fuel + 1) (by omega : _ ≤ room) h.2 place₂
      refine ⟨after, ?_⟩
      rw [memberChars, List.append_assoc, List.append_assoc, List.cons_append, members, hname]
      dsimp only [bind, Except.bind]
      rw [colon_cons]
      dsimp only [bind, Except.bind]
      rw [hmember]
      dsimp only [bind, Except.bind]
      rw [hmembers]
      rfl

end

/-- A printed document is read as it was, whatever follows it. -/
theorem document_chars {j : Json} {room : Nat} (hroom : j.nesting ≤ room)
    (hnumbers : j.EveryNumber ReadsBack) {rest : List Char} (hrest : Ends rest) :
    Takes (document room) (j.chars ++ rest) j rest := by
  intro place
  have hfuel : 2 * j.chars.length ≤ 2 * (j.chars ++ rest).length + 1 + 1 := by
    rw [List.length_append]
    omega
  exact json_chars j rest hfuel hroom hnumbers hrest place

/-- A document whose numbers are read back, and that is not nested too
deep, is read back. -/
theorem ofText_compact {j : Json} (hnumbers : j.EveryNumber ReadsBack)
    (hnesting : j.nesting ≤ maxNesting) : ofText j.compact = .ok j := by
  have hend : Ends [] := fun _ h => nomatch h
  obtain ⟨after, hdocument⟩ := document_chars hnesting hnumbers hend .start
  rw [List.append_nil] at hdocument
  unfold ofText compact
  rw [String.toList_ofList, Cursor.start, hdocument]
  rfl

-- ============================================================= nesting

theorem json?_nesting {t : NumberText} {j : Json} (h : t.json? = some j) : j.nesting = 0 := by
  unfold NumberText.json? at h
  have hdouble : ∀ {j}, t.double?.map Json.decimal = some j → j.nesting = 0 := by
    intro j h
    obtain ⟨x, -, rfl⟩ := Option.map_eq_some_iff.mp h
    rfl
  dsimp only at h
  split at h
  · split at h
    · split at h
      · cases h
        rfl
      split at h
      · cases h
        rfl
      · exact hdouble h
    · split at h
      · cases h
        rfl
      · exact hdouble h
  · exact hdouble h

theorem number_nesting {c c' : Cursor} {j : Json} (h : number c = .ok (j, c')) : j.nesting = 0 := by
  obtain ⟨⟨t, after⟩, -, h⟩ := ok_of_bind h
  dsimp only at h
  split at h
  · split at h
    · exact nomatch h
    · cases h
      rfl
  · split at h
    · rename_i hj
      cases h
      exact json?_nesting hj
    · exact nomatch h

theorem scalar_nesting {ch : Char} {rest : List Char} {c c' : Cursor} {j : Json}
    (h : scalar c ch rest = .ok (j, c')) : j.nesting = 0 := by
  unfold scalar at h
  split at h
  · obtain ⟨_, -, heq⟩ := ok_of_map h
    cases heq
    rfl
  split at h
  · obtain ⟨_, -, heq⟩ := ok_of_map h
    cases heq
    rfl
  split at h
  · obtain ⟨_, -, heq⟩ := ok_of_map h
    cases heq
    rfl
  split at h
  · exact number_nesting h
  split at h
  · obtain ⟨_, -, heq⟩ := ok_of_map h
    cases heq
    rfl
  · exact nomatch h

mutual

/-- What is read inside so many arrays and objects is nested no deeper. -/
theorem json_nesting : ∀ {fuel room : Nat} {c c' : Cursor} {j : Json},
    json fuel room c = .ok (j, c') → j.nesting ≤ room
  | fuel + 1, room, c, c', j, h => by
      rw [json] at h
      dsimp only at h
      split at h
      · exact nomatch h
      · split at h
        · split at h
          · exact nomatch h
          · obtain ⟨⟨js, c''⟩, hitems, heq⟩ := ok_of_map h
            cases heq
            exact Nat.succ_le_succ (items_nesting hitems)
        split at h
        · split at h
          · exact nomatch h
          · obtain ⟨⟨ms, c''⟩, hmembers, heq⟩ := ok_of_map h
            cases heq
            exact Nat.succ_le_succ (members_nesting hmembers)
        · rw [scalar_nesting h]
          exact Nat.zero_le _

theorem items_nesting : ∀ {fuel room : Nat} {first : Bool} {c c' : Cursor} {js : List Json},
    items fuel room first c = .ok (js, c') → nestingOfItems js ≤ room
  | fuel + 1, room, first, c, c', js, h => by
      rw [items] at h
      obtain ⟨⟨more, c₁⟩, -, h⟩ := ok_of_bind h
      dsimp only at h
      split at h
      · obtain ⟨⟨j, c₂⟩, hj, h⟩ := ok_of_bind h
        obtain ⟨⟨js', c₃⟩, hjs, h⟩ := ok_of_bind h
        cases h
        exact max_le (json_nesting hj) (items_nesting hjs)
      · obtain ⟨c₂, -, h⟩ := ok_of_bind h
        cases h
        exact Nat.zero_le _

theorem members_nesting : ∀ {fuel room : Nat} {first : Bool} {c c' : Cursor}
    {ms : List (String × Json)},
    members fuel room first c = .ok (ms, c') → nestingOfMembers ms ≤ room
  | fuel + 1, room, first, c, c', ms, h => by
      rw [members] at h
      obtain ⟨⟨name?, c₁⟩, -, h⟩ := ok_of_bind h
      dsimp only at h
      split at h
      · obtain ⟨c₂, -, h⟩ := ok_of_bind h
        obtain ⟨⟨j, c₃⟩, hj, h⟩ := ok_of_bind h
        obtain ⟨⟨ms', c₄⟩, hms, h⟩ := ok_of_bind h
        cases h
        exact max_le (json_nesting hj) (members_nesting hms)
      · obtain ⟨c₂, -, h⟩ := ok_of_bind h
        cases h
        exact Nat.zero_le _

end

end MessageCatalog.Json
