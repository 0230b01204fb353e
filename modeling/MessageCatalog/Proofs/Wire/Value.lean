/-
Literals and values are read back.

A value whose maps are in order is read as it was
(`Value.ofJson_toJson`). Whatever a document holds, the value read from
it is in order and its document is nested no deeper
(`Value.ordered_ofJson`), so a value that has been read once comes back.
-/
import MessageCatalog.Proofs.Json.Documents
import MessageCatalog.Proofs.Wire.Reading

namespace MessageCatalog

-- =========================================================== literals

theorem Literal.ofJson?_toJson (l : Literal) : Literal.ofJson? l.toJson = some l := by
  cases l <;> rfl

-- ============================================================= values

namespace Value

mutual

/-- All maps of a value are dictionaries. -/
def Ordered : Value → Prop
  | .list items => OrderedItems items
  | .map pairs => Dictionary.Ordered pairs ∧ OrderedPairs pairs
  | _ => True

/-- All maps of values are dictionaries. -/
def OrderedItems : List Value → Prop
  | [] => True
  | v :: rest => Ordered v ∧ OrderedItems rest

/-- All maps of the values under names are dictionaries. -/
def OrderedPairs : List (String × Value) → Prop
  | [] => True
  | (_, v) :: rest => Ordered v ∧ OrderedPairs rest

end

mutual

/-- A value is read as it was. -/
theorem ofJson_toJson : ∀ v : Value, v.Ordered → ofJson v.toJson = v
  | .null, _ => rfl
  | .boolean _, _ => rfl
  | .number _, _ => rfl
  | .string _, _ => rfl
  | .list items, h => congrArg Value.list (ofItems_toItems items h)
  | .map pairs, h => by
      rw [toJson, ofJson, ofMembers_toMembers pairs h.2, Dictionary.ofList_of_ordered h.1]

theorem ofItems_toItems : ∀ vs : List Value, OrderedItems vs → ofItems (toItems vs) = vs
  | [], _ => rfl
  | v :: rest, h => by
      rw [toItems, ofItems, ofJson_toJson v h.1, ofItems_toItems rest h.2]

theorem ofMembers_toMembers : ∀ ps : List (String × Value), OrderedPairs ps →
    ofMembers (toMembers ps) = ps
  | [], _ => rfl
  | (name, v) :: rest, h => by
      rw [toMembers, ofMembers, ofJson_toJson v h.1, ofMembers_toMembers rest h.2]

end

theorem orderedPairs_iff {ps : List (String × Value)} :
    OrderedPairs ps ↔ ∀ p ∈ ps, p.2.Ordered := by
  induction ps with
  | nil => simp [OrderedPairs]
  | cons p ps ih => simp [OrderedPairs, ih]

theorem mem_toMembers {ps : List (String × Value)} {m : String × Json} (h : m ∈ toMembers ps) :
    ∃ v, (m.1, v) ∈ ps ∧ m.2 = v.toJson := by
  induction ps with
  | nil => exact nomatch h
  | cons p ps ih =>
      rcases List.mem_cons.mp h with rfl | h
      · exact ⟨p.2, List.mem_cons_self .., rfl⟩
      · obtain ⟨v, hv, heq⟩ := ih h
        exact ⟨v, List.mem_cons_of_mem _ hv, heq⟩

mutual

/-- What is read is in order, and no deeper than its document. -/
theorem ordered_ofJson : ∀ j : Json, (ofJson j).Ordered ∧ (ofJson j).toJson.nesting ≤ j.nesting
  | .null => ⟨trivial, Nat.le_refl _⟩
  | .bool _ => ⟨trivial, Nat.le_refl _⟩
  | .integer _ => ⟨trivial, Nat.le_refl _⟩
  | .decimal _ => ⟨trivial, Nat.le_refl _⟩
  | .string _ => ⟨trivial, Nat.le_refl _⟩
  | .array js =>
    have ⟨hordered, hnesting⟩ := ordered_ofItems js
    ⟨hordered, Nat.succ_le_succ hnesting⟩
  | .object ms => by
      have hmembers := ordered_ofMembers ms
      refine ⟨⟨Dictionary.ordered_ofList _, orderedPairs_iff.mpr fun p hp =>
        (hmembers p (Dictionary.mem_of_mem_ofList hp)).1⟩, Nat.succ_le_succ ?_⟩
      refine Json.nestingOfMembers_le_iff.mpr fun m hm => ?_
      obtain ⟨v, hv, heq⟩ := mem_toMembers hm
      rw [heq]
      exact (hmembers _ (Dictionary.mem_of_mem_ofList hv)).2

theorem ordered_ofItems : ∀ js : List Json, OrderedItems (ofItems js) ∧
    Json.nestingOfItems (toItems (ofItems js)) ≤ Json.nestingOfItems js
  | [] => ⟨trivial, Nat.le_refl _⟩
  | j :: rest =>
    have ⟨hj, hj'⟩ := ordered_ofJson j
    have ⟨hrest, hrest'⟩ := ordered_ofItems rest
    ⟨⟨hj, hrest⟩, max_le_max hj' hrest'⟩

theorem ordered_ofMembers : ∀ (ms : List (String × Json)), ∀ p ∈ ofMembers ms,
    p.2.Ordered ∧ p.2.toJson.nesting ≤ Json.nestingOfMembers ms
  | [], _, hp => nomatch hp
  | (name, j) :: rest, p, hp => by
      rw [Json.nestingOfMembers]
      rcases List.mem_cons.mp hp with rfl | hp
      · have ⟨hj, hj'⟩ := ordered_ofJson j
        exact ⟨hj, Nat.le_trans hj' (Nat.le_max_left ..)⟩
      · have ⟨hp, hp'⟩ := ordered_ofMembers rest p hp
        exact ⟨hp, Nat.le_trans hp' (Nat.le_max_right ..)⟩

end

end Value

end MessageCatalog
