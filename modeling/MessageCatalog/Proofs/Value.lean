/-
When equal values are the same.

Values are equal when they have the same shape and their numbers are
equal, at whatever depth these lie. So what separates equality from
identity is what separates it for numbers: values without the zero with a
sign are equal only to themselves (`eq_of_same`), and a value is equal to
something exactly if it holds no not-a-number (`same_self`,
`numeric_of_same`).
-/
import MessageCatalog.Proofs.Number

namespace MessageCatalog.Value

variable {p : Float → Prop}

mutual

/-- All numbers in a value, at any depth, have a property. -/
def AllNumbers (p : Float → Prop) : Value → Prop
  | .number x => p x
  | .list items => AllInItems p items
  | .map pairs => AllInPairs p pairs
  | .null | .boolean _ | .string _ => True

/-- All numbers in the items of a list have a property. -/
def AllInItems (p : Float → Prop) : List Value → Prop
  | [] => True
  | v :: rest => AllNumbers p v ∧ AllInItems p rest

/-- All numbers in the values of a dictionary have a property. -/
def AllInPairs (p : Float → Prop) : List (String × Value) → Prop
  | [] => True
  | (_, v) :: rest => AllNumbers p v ∧ AllInPairs p rest

end

/-- The number is not the zero with a sign. -/
abbrev Unsigned (x : Float) : Prop := x ≠ Number.negativeZero

/-- The number is a number. -/
abbrev Numeric (x : Float) : Prop := x.isNaN = false

mutual

/-- Equal values without the zero with a sign are the same. -/
theorem eq_of_same : ∀ {a b : Value}, a.same b = true → a.AllNumbers Unsigned →
    b.AllNumbers Unsigned → a = b
  | .null, .null, _, _, _ => rfl
  | .boolean _, .boolean _, h, _, _ => congrArg boolean (eq_of_beq h)
  | .number _, .number _, h, ha, hb => congrArg number (Number.eq_of_beq h ha hb)
  | .string _, .string _, h, _, _ => congrArg string (eq_of_beq h)
  | .list _, .list _, h, ha, hb => congrArg list (eq_of_sameItems h ha hb)
  | .map _, .map _, h, ha, hb => congrArg map (eq_of_samePairs h ha hb)

theorem eq_of_sameItems : ∀ {as bs : List Value}, sameItems as bs = true →
    AllInItems Unsigned as → AllInItems Unsigned bs → as = bs
  | [], [], _, _, _ => rfl
  | a :: as, b :: bs, h, ha, hb => by
      obtain ⟨hhead, hrest⟩ := Bool.and_eq_true_iff.mp h
      rw [eq_of_same hhead ha.1 hb.1, eq_of_sameItems hrest ha.2 hb.2]

theorem eq_of_samePairs : ∀ {as bs : List (String × Value)}, samePairs as bs = true →
    AllInPairs Unsigned as → AllInPairs Unsigned bs → as = bs
  | [], [], _, _, _ => rfl
  | (m, a) :: as, (n, b) :: bs, h, ha, hb => by
      obtain ⟨hhead, hrest⟩ := Bool.and_eq_true_iff.mp h
      obtain ⟨hname, hvalue⟩ := Bool.and_eq_true_iff.mp hhead
      rw [eq_of_beq hname, eq_of_same hvalue ha.1 hb.1, eq_of_samePairs hrest ha.2 hb.2]

end

mutual

/-- A value all of whose numbers are numbers is equal to itself. -/
theorem same_self : ∀ {a : Value}, a.AllNumbers Numeric → a.same a = true
  | .null, _ => rfl
  | .boolean _, _ => beq_self_eq_true _
  | .number _, h => Number.beq_self_iff.mpr h
  | .string _, _ => beq_self_eq_true _
  | .list _, h => sameItems_self h
  | .map _, h => samePairs_self h

theorem sameItems_self : ∀ {as : List Value}, AllInItems Numeric as → sameItems as as = true
  | [], _ => rfl
  | _ :: _, h => Bool.and_eq_true_iff.mpr ⟨same_self h.1, sameItems_self h.2⟩

theorem samePairs_self : ∀ {as : List (String × Value)}, AllInPairs Numeric as →
    samePairs as as = true
  | [], _ => rfl
  | (_, _) :: _, h =>
    Bool.and_eq_true_iff.mpr
      ⟨Bool.and_eq_true_iff.mpr ⟨beq_self_eq_true _, same_self h.1⟩, samePairs_self h.2⟩

end

mutual

/-- Nothing is equal to a value with something in it that is not a number. -/
theorem numeric_of_same : ∀ {a b : Value}, a.same b = true → b.AllNumbers Numeric
  | .null, .null, _ => trivial
  | .boolean _, .boolean _, _ => trivial
  | .number _, .number _, h => Number.isNaN_of_beq h
  | .string _, .string _, _ => trivial
  | .list _, .list _, h => numeric_of_sameItems h
  | .map _, .map _, h => numeric_of_samePairs h

theorem numeric_of_sameItems : ∀ {as bs : List Value}, sameItems as bs = true →
    AllInItems Numeric bs
  | [], [], _ => trivial
  | _ :: _, _ :: _, h => by
      obtain ⟨hhead, hrest⟩ := Bool.and_eq_true_iff.mp h
      exact ⟨numeric_of_same hhead, numeric_of_sameItems hrest⟩

theorem numeric_of_samePairs : ∀ {as bs : List (String × Value)}, samePairs as bs = true →
    AllInPairs Numeric bs
  | [], [], _ => trivial
  | (_, _) :: _, (_, _) :: _, h => by
      obtain ⟨hhead, hrest⟩ := Bool.and_eq_true_iff.mp h
      exact ⟨numeric_of_same (Bool.and_eq_true_iff.mp hhead).2, numeric_of_samePairs hrest⟩

end

end MessageCatalog.Value
