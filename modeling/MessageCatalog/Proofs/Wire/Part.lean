/-
Parts are read back.

A part is printed as the record of its kind and its value, in this order,
so the kind is known when the value is read, and what a value stands for
is never in doubt: the text `1.5` is a literal under one kind and a
dynamic value under another. A printed part comes back from its text, and
from its document (`printed_part_reads_back`).

Both inductions follow the tree of parts. The one over texts says more: a
printed part is read as it was wherever it stands and whatever follows it
(`readPart_chars`, `readParts_chars`), given fuel for every character that
was printed.
-/
import MessageCatalog.Proofs.Wire.Resource
import MessageCatalog.Wire.Part

namespace MessageCatalog.Part

open Json Cursor

-- =============================================================== kinds

/-- The name of a kind. -/
def Kind.name : Kind → String
  | .literal => "literal"
  | .dynamic => "dynamic"
  | .message => "message"

theorem Kind.ofName_name (k : Kind) : Kind.ofName k.name = .ok k := by
  cases k <;> decide +kernel

/-- The record of a kind and the document of a value. -/
def tagged (k : Kind) (j : Json) : Json := .object [("kind", .string k.name), ("value", j)]

mutual

/-- All maps of the values in a part are dictionaries. -/
def Ordered : Part → Prop
  | .literal _ => True
  | .dynamic v => v.Ordered
  | .message parts => OrderedParts parts

/-- All maps of the values in parts are dictionaries. -/
def OrderedParts : List Part → Prop
  | [] => True
  | p :: rest => Ordered p ∧ OrderedParts rest

end

-- =============================================================== texts

/-- The name of a relevant member is found at once. -/
theorem nextRelevant_name (first : Bool) {name : String} (h : name = "kind" ∨ name = "value")
    (text : List Char) :
    Takes (fun c => nextRelevant c.fuel first c)
      ((if first then [] else [',']) ++ quote name ++ text) (some name) text := by
  intro place
  obtain ⟨after, hname⟩ := nextName_name first name text place
  refine ⟨after, ?_⟩
  show nextRelevant (Cursor.fuel _) first _ = _
  unfold Cursor.fuel
  rw [nextRelevant, hname]
  show (if name = "kind" ∨ name = "value" then _ else _) = _
  rw [if_pos h]
  rfl

/-- Behind the last member there is no other. -/
theorem lastMembers_end (p : Part) (rest : List Char) :
    Takes (lastMembers p) ('\x7d' :: rest) p ('\x7d' :: rest) := by
  intro place
  exact ⟨place, rfl⟩

/-- The printed name of a kind is read as the kind. -/
theorem readKind_quote (room : Nat) (k : Kind) (text : List Char) :
    Takes (readKind room) (quote k.name ++ text) k text := by
  intro place
  obtain ⟨after, hname⟩ := stringValue_quote "variant identifier" k.name text place
  refine ⟨after, ?_⟩
  have hread : readKindName ⟨quote k.name ++ text, place⟩ = .ok (k, ⟨text, after⟩) := by
    unfold readKindName
    rw [hname]
    dsimp only [bind, Except.bind]
    rw [k.ofName_name]
    rfl
  rw [quote, List.cons_append] at hread ⊢
  rw [readKind, skipBlanks_cons (by decide)]
  dsimp only
  rw [if_pos rfl, hread]

/-- A printed record is read as a part if the document behind its kind is
read as the value of one. -/
theorem readPart_tagged {fuel room : Nat} {k : Kind} {j : Json} {p : Part} {rest : List Char}
    (hvalue : Takes (readValue fuel room k faultInObject) (j.chars ++ '\x7d' :: rest) p
      ('\x7d' :: rest)) :
    Takes (readPart (fuel + 1) (room + 1)) ((tagged k j).chars ++ rest) p rest := by
  intro place
  let behindName := ':' :: (j.chars ++ '\x7d' :: rest)
  let behindKind := [','] ++ quote "value" ++ behindName
  obtain ⟨place₁, hkindName⟩ := nextRelevant_name true (.inl rfl)
    (':' :: (quote k.name ++ behindKind)) (place.after '\x7b')
  obtain ⟨place₂, hkind⟩ := readKind_quote room k behindKind (place₁.after ':')
  obtain ⟨place₃, hvalueName⟩ := nextRelevant_name false (.inr rfl) behindName place₂
  obtain ⟨place₄, hvalue⟩ := hvalue (place₃.after ':')
  obtain ⟨place₅, hlast⟩ := lastMembers_end p rest place₄
  refine ⟨place₅.after '\x7d', ?_⟩
  have htext : (tagged k j).chars ++ rest
      = '\x7b' :: (quote "kind" ++ ':' :: (quote k.name ++ behindKind)) := by
    simp [tagged, chars, memberChars, scalarChars, behindKind, behindName]
  rw [htext, readPart, record, skipBlanks_cons (by decide)]
  dsimp only [past, enter]
  rw [if_pos rfl]
  dsimp only [bind, Except.bind]
  simp only [if_true, List.nil_append] at hkindName
  rw [hkindName]
  dsimp only
  rw [colon_cons]
  dsimp only
  rw [if_pos rfl, hkind]
  dsimp only
  simp only [Bool.false_eq_true, if_false] at hvalueName
  rw [hvalueName]
  dsimp only
  rw [if_neg (by decide), colon_cons]
  dsimp only
  rw [hvalue]
  dsimp only
  rw [hlast]
  rfl

/-- A printed document is read as the part that it stands for, unless it
stands for other parts. -/
theorem readValue_chars {fuel room : Nat} {k : Kind} {j : Json} {p : Part} (hk : k ≠ .message)
    (hread : ofValue ofJson k j = .ok p) (hroom : j.nesting ≤ room)
    (hnumbers : j.EveryNumber ReadsBack) (rest : List Char) :
    Takes (readValue (fuel + 1) room k faultInObject) (j.chars ++ '\x7d' :: rest) p
      ('\x7d' :: rest) := by
  intro place
  have hend : Ends ('\x7d' :: rest) := ends_cons (by decide) rest
  obtain ⟨after, hdocument⟩ := document_chars hroom hnumbers hend place
  refine ⟨after, ?_⟩
  have hvalue : ∀ c, readValue (fuel + 1) room k faultInObject c
      = (c.document room).bind fun read => placed faultInObject read.2 (ofValue ofJson k read.1) := by
    intro c
    cases k with
    | message => exact absurd rfl hk
    | literal => rfl
    | dynamic => rfl
  rw [hvalue, hdocument]
  dsimp only [Except.bind]
  rw [hread]
  rfl

theorem nesting_tagged (k : Kind) (j : Json) : (tagged k j).nesting = j.nesting + 1 := by
  simp [tagged, nesting, nestingOfMembers]

/-- The names and marks of a record take characters of their own. -/
theorem length_tagged (k : Kind) (j : Json) :
    j.chars.length + 10 ≤ (tagged k j).chars.length := by
  have hvalue : 7 ≤ (quote "value").length := by decide
  simp only [tagged, chars, memberChars, List.length_cons, List.length_append]
  omega

theorem everyNumber_tagged {k : Kind} {j : Json} {q : Float → Prop} :
    (tagged k j).EveryNumber q ↔ j.EveryNumber q := by
  simp [tagged, EveryNumber, EveryNumberOfMembers]

/-- A printed part that holds no others is read as it was. -/
theorem readPart_value {fuel room : Nat} {k : Kind} {j : Json} {p : Part} (hk : k ≠ .message)
    (hread : ofValue ofJson k j = .ok p) (rest : List Char)
    (hfuel : 3 * (tagged k j).chars.length ≤ fuel) (hroom : (tagged k j).nesting ≤ room)
    (hnumbers : (tagged k j).EveryNumber ReadsBack) :
    Takes (readPart fuel room) ((tagged k j).chars ++ rest) p rest := by
  have hlength := length_tagged k j
  rw [nesting_tagged] at hroom
  rw [everyNumber_tagged] at hnumbers
  obtain ⟨fuel, rfl⟩ : ∃ n, fuel = n + 2 := ⟨fuel - 2, by omega⟩
  obtain ⟨room, rfl⟩ : ∃ n, room = n + 1 := ⟨room - 1, by omega⟩
  exact readPart_tagged (readValue_chars hk hread (by omega) hnumbers rest)

/-- Printed parts between brackets are read as the value of a part. -/
theorem readValue_parts {fuel room : Nat} {js : List Json} {ps : List Part} {rest : List Char}
    (hparts : Takes (readParts fuel room true) (itemChars true js ++ ']' :: rest) ps
      (']' :: rest)) :
    Takes (readValue (fuel + 1) (room + 1) .message faultInObject)
      ((Json.array js).chars ++ rest) (.message ps) rest := by
  intro place
  obtain ⟨after, hparts⟩ := hparts (place.after '[')
  refine ⟨after.after ']', ?_⟩
  rw [chars, List.cons_append, List.append_assoc, List.singleton_append, readValue,
    skipBlanks_cons (by decide)]
  dsimp only [past, enter]
  rw [if_pos rfl]
  dsimp only [bind, Except.bind]
  rw [hparts]
  rfl

/-- What a part is printed as begins with a brace. -/
theorem toJson_begins (p : Part) : ∃ text, p.toJson.chars = '\x7b' :: text := by
  cases p with
  | literal l => exact ⟨_, by rw [toJson, chars]⟩
  | dynamic v => exact ⟨_, by rw [toJson, chars]⟩
  | message ps => exact ⟨_, by rw [toJson, chars]⟩

mutual

/-- A printed part is read as it was. -/
theorem readPart_chars : ∀ (p : Part) {fuel room : Nat} (rest : List Char),
    3 * p.toJson.chars.length ≤ fuel → p.toJson.nesting ≤ room → p.Ordered →
      p.toJson.EveryNumber ReadsBack → Takes (readPart fuel room) (p.toJson.chars ++ rest) p rest
  | .literal l, fuel, room, rest, hfuel, hroom, _, hnumbers => by
      have hread : ofValue ofJson .literal l.toJson = .ok (.literal l) := by
        rw [ofValue, Literal.ofJson?_toJson]
      exact readPart_value (k := .literal) (by decide) hread rest hfuel hroom hnumbers
  | .dynamic v, fuel, room, rest, hfuel, hroom, hordered, hnumbers => by
      have hread : ofValue ofJson .dynamic v.toJson = .ok (.dynamic v) := by
        rw [ofValue, Value.ofJson_toJson v hordered]
      exact readPart_value (k := .dynamic) (by decide) hread rest hfuel hroom hnumbers
  | .message ps, fuel, room, rest, hfuel, hroom, hordered, hnumbers => by
      have hjson : (Part.message ps).toJson = tagged .message (.array (toItems ps)) := by
        rw [toJson, tagged, Kind.name]
      rw [hjson] at hfuel hroom hnumbers ⊢
      have hlength := length_tagged .message (.array (toItems ps))
      rw [nesting_tagged, nesting] at hroom
      rw [everyNumber_tagged] at hnumbers
      rw [chars, List.length_cons, List.length_append, List.length_singleton] at hlength
      obtain ⟨fuel, rfl⟩ : ∃ n, fuel = n + 2 := ⟨fuel - 2, by omega⟩
      obtain ⟨room, rfl⟩ : ∃ n, room = n + 2 := ⟨room - 2, by omega⟩
      exact readPart_tagged (readValue_parts (readParts_chars ps true ('\x7d' :: rest)
        (by omega) (by omega) hordered hnumbers))

/-- Printed parts are read as they were, up to the closing bracket. -/
theorem readParts_chars : ∀ (ps : List Part) (first : Bool) {fuel room : Nat} (rest : List Char),
    3 * (itemChars first (toItems ps)).length + 1 ≤ fuel → nestingOfItems (toItems ps) ≤ room →
      OrderedParts ps → EveryNumberOfItems ReadsBack (toItems ps) →
      Takes (readParts fuel room first) (itemChars first (toItems ps) ++ ']' :: rest) ps
        (']' :: rest)
  | [], first, fuel + 1, room, rest, _, _, _, _ => fun place => ⟨place, rfl⟩
  | p :: ps, first, fuel + 1, room, rest, hfuel, hroom, hordered, hnumbers => by
      intro place
      rw [toItems, itemChars, List.length_append, List.length_append] at hfuel
      rw [toItems, nestingOfItems] at hroom
      obtain ⟨text, htext⟩ := toJson_begins p
      have hlength : 1 ≤ p.toJson.chars.length := by rw [htext, List.length_cons]; omega
      have hbegins : Begins '\x7b' := by unfold Begins; decide
      obtain ⟨place₁, hnext⟩ := nextItem_item first hbegins
        (text ++ (itemChars false (toItems ps) ++ ']' :: rest)) place
      obtain ⟨place₂, hpart⟩ := readPart_chars p (itemChars false (toItems ps) ++ ']' :: rest)
        (by omega : _ ≤ fuel) (by omega : _ ≤ room) hordered.1 hnumbers.1 place₁
      obtain ⟨after, hparts⟩ := readParts_chars ps false rest
        (by omega : _ ≤ fuel) (by omega : _ ≤ room) hordered.2 hnumbers.2 place₂
      refine ⟨after, ?_⟩
      rw [htext, List.cons_append] at hpart
      rw [toItems, itemChars, htext, List.append_assoc, List.append_assoc, List.cons_append,
        readParts, hnext]
      dsimp only [bind, Except.bind]
      rw [if_pos rfl, hpart]
      dsimp only [bind, Except.bind]
      rw [hparts]
      rfl

end

/-- A part whose maps are in order comes back from its text, if its numbers
do and it is not nested too deep. -/
theorem ofText_compact {p : Part} (hordered : p.Ordered) (hnesting : p.toJson.nesting ≤ maxNesting)
    (hnumbers : p.toJson.EveryNumber ReadsBack) : ofText (compact p.toJson) = .ok p := by
  have hfuel : 3 * p.toJson.chars.length ≤ 3 * (compact p.toJson).length + 3 := by
    unfold compact
    rw [String.length_ofList]
    omega
  obtain ⟨after, hread⟩ := readPart_chars p [] hfuel hnesting hordered hnumbers .start
  rw [List.append_nil] at hread
  have htext : (compact p.toJson).toList = p.toJson.chars := String.toList_ofList
  unfold ofText
  rw [htext, Cursor.start]
  dsimp only
  rw [hread]
  rfl

-- =========================================================== documents

/-- The record of a kind and a value is read as the part of that kind. -/
theorem atLevels_tagged {levels : Nat} {k : Kind} {j : Json} {p : Part}
    (h : ofValue (atLevels levels) k j = .ok p) : atLevels (levels + 1) (tagged k j) = .ok p := by
  have hmembers : [("kind", Json.string k.name), ("value", j)].filter
      (fun m => m.1 == "kind" || m.1 == "value") = [("kind", .string k.name), ("value", j)] := by
    simp
  rw [tagged, atLevels, hmembers]
  dsimp only
  rw [if_pos rfl, Kind.ofJson, k.ofName_name]
  dsimp only [bind, Except.bind]
  rw [if_neg (by decide), h]
  rfl

mutual

/-- The document of a part is read as the part, with as many steps as it
has levels. -/
theorem atLevels_toJson : ∀ (p : Part) {levels : Nat}, p.toJson.levels ≤ levels → p.Ordered →
    atLevels levels p.toJson = .ok p
  | p, 0, hlevels, _ => absurd hlevels (Nat.not_le.mpr p.toJson.levels_pos)
  | .literal l, levels + 1, _, _ => atLevels_tagged (k := .literal) <| by
      rw [ofValue, Literal.ofJson?_toJson]
  | .dynamic v, levels + 1, _, hordered => atLevels_tagged (k := .dynamic) <| by
      rw [ofValue, Value.ofJson_toJson v hordered]
  | .message ps, levels + 1, hlevels, hordered => atLevels_tagged (k := .message) <| by
      have hitems : levelsOfItems (toItems ps) ≤ levels := by
        rw [toJson, Json.levels] at hlevels
        simp only [levelsOfMembers, Json.levels] at hlevels
        omega
      rw [ofValue, mapM_toItems ps hitems hordered]
      rfl

theorem mapM_toItems : ∀ (ps : List Part) {levels : Nat}, levelsOfItems (toItems ps) ≤ levels →
    OrderedParts ps → (toItems ps).mapM (atLevels levels) = .ok ps
  | [], _, _, _ => rfl
  | p :: ps, levels, hlevels, hordered => by
      rw [toItems, levelsOfItems] at hlevels
      rw [toItems, List.mapM_cons, atLevels_toJson p (by omega) hordered.1,
        mapM_toItems ps (by omega) hordered.2]
      rfl

end

/-- Parts survive the wire: a part comes back from its text and from its
document as it was, if its numbers are finite, printed numbers are read as
the same numbers, and it is nested within the limit. -/
theorem printed_part_reads_back {p : Part} (hordered : p.Ordered)
    (hfinite : p.toJson.EveryNumber fun x => Decimal.isFinite x)
    (hnumbers : p.toJson.EveryNumber fun x => Decimal.isFinite x → ReadsBack x)
    (hnesting : p.toJson.nesting ≤ maxNesting) :
    ofText (compact p.toJson) = .ok p ∧ ofJson p.toJson = .ok p :=
  ⟨ofText_compact hordered hnesting (hnumbers.mp hfinite),
    atLevels_toJson p (Nat.le_refl _) hordered⟩

/-- A message in a message with all that could be confused: an empty
message, an empty list and an empty value, and one number and one text
each as a literal and as a value. -/
def lookalikes : Part :=
  .message [.message [], .dynamic (.list []), .dynamic .null, .literal (.number 1.5),
    .dynamic (.number 1.5), .literal (.string "1.5"), .dynamic (.string "1.5"),
    .message [.dynamic (.map [("kind", .string "message"), ("value", .list [.null])])]]

theorem printed_part_reads_back_lookalikes :
    ofText (compact lookalikes.toJson) = .ok lookalikes ∧
    ofJson lookalikes.toJson = .ok lookalikes := by
  refine printed_part_reads_back ?_ (by decide +kernel) (by decide +kernel) (by decide +kernel)
  simp only [lookalikes, Ordered, OrderedParts, Value.Ordered, Value.OrderedItems,
    Value.OrderedPairs, Dictionary.Ordered]
  decide

end MessageCatalog.Part
