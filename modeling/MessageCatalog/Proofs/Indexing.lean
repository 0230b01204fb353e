/-
Numbers and their texts as keys.

A list is indexed by a number or by a text of digits, a dictionary by the
text of any key. So a dictionary cannot tell a number from the text that
shows it, and neither can a list: a whole number shows as its digits, which
denote it, while fractions, signs and the special values are no index in
either form (`indexOfNumber?_eq_some_iff`). There is one exception, the
zero with a sign: as a number it is the index zero, but its text has a sign
in it and is no index at all (`index_of_negativeZero`).

# Great indexes

The digits of a number beyond `2 ^ 53` are the shortest that stand for it
and may denote a number near it instead. So what is said of indexes is said
below that bound, and what is said of lists is said of those with no more
items.

# Paths

A path may hold numbers or their texts as its keys. One look-up changes
nothing (`get?_respelled`) and leads to a value whose lists are short again
(`Short.get?`); the walk is an induction on the path.
-/
import MessageCatalog.Proofs.Decimal.Shortest
import MessageCatalog.Scope

namespace MessageCatalog

namespace Value

open Decimal

variable {x : Float} {negative : Bool} {m : Magnitude}

-- ============================================================= indexes

theorem pow_le_maxIndex : 2 ^ 53 ≤ maxIndex := by decide

/-- Digits are the index that they denote, unless it is too great. -/
theorem indexOfText?_digits {s : String} (hne : s.toList ≠ []) (hdigits : Digits s.toList) :
    indexOfText? s
      = if digitsValue s.toList ≤ maxIndex then some (digitsValue s.toList) else none := by
  obtain ⟨c, rest, hs⟩ := List.exists_cons_of_ne_nil hne
  have hplus : c ≠ '+' := by
    rintro rfl
    exact absurd (hdigits '+' (by rw [hs]; exact List.mem_cons_self ..)) (by decide)
  have hall : (c :: rest).all isDigit = true := List.all_eq_true.mpr (hs ▸ hdigits)
  unfold indexOfText?
  rw [hs]
  simp [hplus, hall]

/-- A text with a character in it that is neither a digit nor a plus is no
index. -/
theorem indexOfText?_eq_none {s : String} {c : Char} (hc : c ∈ s.toList)
    (hdigit : isDigit c = false) (hplus : c ≠ '+') : indexOfText? s = none := by
  have hnot : ∀ digits : List Char, c ∈ digits → digits.all isDigit = false := fun digits hmem => by
    rw [List.all_eq_false]
    exact ⟨c, hmem, by rw [hdigit]; exact Bool.false_ne_true⟩
  unfold indexOfText?
  cases hs : s.toList with
  | nil => rfl
  | cons d rest =>
      rw [hs] at hc
      by_cases hd : d = '+'
      · subst hd
        have hrest : c ∈ rest := (List.mem_cons.mp hc).resolve_left hplus
        simp [hnot rest hrest]
      · simp [hd, hnot (d :: rest) hc]

theorem indexOfNumber?_of_read (h : read x = .finite negative m) :
    indexOfNumber? x = if (negative = false ∨ m.significand = 0) ∧ m.isWhole = true
      then some (min maxIndex m.floor) else none := by
  unfold indexOfNumber? wholeMagnitude?
  rw [h]
  by_cases hsign : negative = false ∨ m.significand = 0
  · rw [if_pos ((nonneg_iff h).mpr hsign)]
    by_cases hwhole : m.isWhole = true
    · simp [hsign, hwhole]
    · simp [hwhole]
  · rw [if_neg (fun h0 => hsign ((nonneg_iff h).mp h0)), if_neg (fun hboth => hsign hboth.1)]

theorem isWhole_zero : (⟨0, -1074⟩ : Magnitude).isWhole = true :=
  isWhole_of_exact (n := 0) (by simp [Magnitude.exact])

theorem floor_zero : (⟨0, -1074⟩ : Magnitude).floor = 0 := by
  unfold Magnitude.floor Magnitude.num
  rw [Nat.zero_mul, Nat.zero_div]

/-- Without a sign, the zero is the index zero in both forms. -/
theorem indexes_of_zero (h : read x = .finite false m) (hzero : m.significand = 0) :
    indexOfNumber? x = some 0 ∧ indexOfText? (Decimal.text x) = some 0 := by
  have hm : m = ⟨0, -1074⟩ := (canonical_of_read h).eq_zero hzero
  subst hm
  have htext := text_of_read h
  have hshown : (Decimal.text x).toList = ['0'] := htext.trans (by decide)
  refine ⟨?_, ?_⟩
  · rw [indexOfNumber?_of_read h, if_pos ⟨Or.inl rfl, isWhole_zero⟩, floor_zero]
    rfl
  · rw [indexOfText?_digits (by rw [hshown]; decide)
      (by rw [hshown]; exact digits_zeros 1), hshown]
    decide

/-- A whole number is its own index, and the digits that it shows as denote
the same if it is not too great. -/
theorem indexes_of_whole (h : read x = .finite false m) (hpos : 0 < m.significand)
    (hwhole : m.isWhole = true) {k : Nat} (hk : k < 2 ^ 53) :
    indexOfNumber? x = some k ↔ indexOfText? (Decimal.text x) = some k := by
  have hmax := pow_le_maxIndex
  have hcanonical := canonical_of_read h
  obtain ⟨w, hw, hnegative, hfraction, hexact⟩ :=
    exists_written_positional false (shortest .upward m)
  have hscale := shortest_scale_nonneg .upward hcanonical hpos hwhole
  have hnil : w.fraction = [] := List.length_eq_zero_iff.mp (hfraction.trans (by omega))
  have hchars : (Decimal.text x).toList = w.whole := by
    rw [text_of_read h, hw, Written.chars, hnegative, hnil]
    exact List.append_nil _
  have hvalue : (digitsValue w.whole : ℚ) = (shortest .upward m).exact := by
    rw [← hexact, Written.numeral, hnil, Numeral.exact]
    simp
  have hfloor := floor_eq_exact hwhole
  have hindex := indexOfText?_digits (s := Decimal.text x) (by rw [hchars]; exact w.whole_ne_nil)
    (by rw [hchars]; exact w.digits_whole)
  rw [hchars] at hindex
  rw [indexOfNumber?_of_read h, if_pos ⟨Or.inl rfl, hwhole⟩, hindex]
  obtain ⟨hsmall, hgreat⟩ := shortest_whole .upward hcanonical hpos hwhole
  rw [← hvalue] at hsmall hgreat
  by_cases hbound : m.floor < 2 ^ 53
  · have heq : digitsValue w.whole = m.floor := by
      exact_mod_cast (hsmall hbound).trans hfloor.symm
    rw [heq, if_pos (by omega), Nat.min_eq_right (by omega)]
  · have hle : 2 ^ 53 ≤ digitsValue w.whole := by exact_mod_cast hgreat (by omega)
    constructor
    · intro hsome
      have := Option.some.inj hsome
      omega
    · intro hsome
      split at hsome
      · have := Option.some.inj hsome
        omega
      · cases hsome

/-- A fraction is no index in either form. -/
theorem indexes_of_fraction (h : read x = .finite false m) (hpos : 0 < m.significand)
    (hwhole : m.isWhole = false) :
    indexOfNumber? x = none ∧ indexOfText? (Decimal.text x) = none := by
  have hscale := shortest_scale_neg .upward (canonical_of_read h) hpos hwhole
  obtain ⟨w, hw, -, hfraction, -⟩ := exists_written_positional false (shortest .upward m)
  have hne : w.fraction ≠ [] := by
    apply List.ne_nil_of_length_pos
    omega
  have hpoint : '.' ∈ (Decimal.text x).toList := by
    rw [text_of_read h, hw, Written.chars, pointAnd_of_ne_nil hne]
    unfold signed
    split <;> simp
  refine ⟨?_, indexOfText?_eq_none hpoint (by decide) (by decide)⟩
  rw [indexOfNumber?_of_read h, hwhole]
  simp

/-- A text with a minus sign is no index. -/
theorem indexOfText?_minus (h : read x = .finite true m) :
    indexOfText? (Decimal.text x) = none := by
  refine indexOfText?_eq_none (c := '-') ?_ (by decide) (by decide)
  rw [text_of_read h]
  exact List.mem_cons_self ..

theorem read_negativeZero : read Number.negativeZero = .finite true ⟨0, -1074⟩ := by
  rw [read_eq]
  rfl

/-- The zero with a sign is an index as a number, and none as text. -/
theorem index_of_negativeZero : indexOfNumber? Number.negativeZero = some 0 ∧
    indexOfText? (Decimal.text Number.negativeZero) = none := by
  refine ⟨?_, indexOfText?_minus read_negativeZero⟩
  rw [indexOfNumber?_of_read read_negativeZero, if_pos ⟨Or.inr rfl, isWhole_zero⟩, floor_zero]
  rfl

/-- Any other number is the same index as its text. -/
theorem indexOfNumber?_eq_some_iff (hx : x ≠ Number.negativeZero) {k : Nat} (hk : k < 2 ^ 53) :
    indexOfNumber? x = some k ↔ indexOfText? (Decimal.text x) = some k := by
  cases hread : read x with
  | notANumber =>
      have hnone : indexOfNumber? x = none := by
        unfold indexOfNumber? wholeMagnitude?
        rw [hread]
        split <;> rfl
      have htext : (Decimal.text x).toList = ['N', 'a', 'N'] := by
        unfold Decimal.text Style.write
        rw [hread, String.toList_ofList]
      rw [hnone, indexOfText?_eq_none (c := 'N') (by rw [htext]; decide) (by decide) (by decide)]
  | infinite negative =>
      have hnone : indexOfNumber? x = none := by
        unfold indexOfNumber? wholeMagnitude?
        rw [hread]
        split <;> rfl
      have htext : (Decimal.text x).toList = signed negative ['i', 'n', 'f'] := by
        unfold Decimal.text Style.write
        rw [hread, String.toList_ofList]
      rw [hnone, indexOfText?_eq_none (c := 'i')
        (by rw [htext]; cases negative <;> decide) (by decide) (by decide)]
  | finite negative m =>
      by_cases hpos : 0 < m.significand
      · cases negative with
        | true =>
            rw [indexOfText?_minus hread, indexOfNumber?_of_read hread, if_neg]
            rintro ⟨hsign | hsign, -⟩
            · cases hsign
            · omega
        | false =>
            cases hwhole : m.isWhole with
            | true => exact indexes_of_whole hread hpos hwhole hk
            | false =>
                obtain ⟨hnumber, htext⟩ := indexes_of_fraction hread hpos hwhole
                rw [hnumber, htext]
      · have hzero : m.significand = 0 := by omega
        cases negative with
        | true =>
            -- the only zero with a sign is the one that is left out
            obtain ⟨s, hs, hunpack⟩ := unpack_of_read hread
            rw [unpacked_of_zero s hzero] at hunpack
            cases s with
            | positive => cases hs
            | negative => exact absurd (Number.eq_of_unpack_eq (hunpack.trans rfl)) hx
        | false =>
            obtain ⟨hnumber, htext⟩ := indexes_of_zero hread hzero
            rw [hnumber, htext]

-- =============================================================== items

/-- Indexes that agree below the length of a list have the same item. -/
theorem bind_getElem?_congr {items : List Value} {i j : Option Nat}
    (hlength : items.length ≤ 2 ^ 53) (h : ∀ k < 2 ^ 53, i = some k ↔ j = some k) :
    i.bind (items[·]?) = j.bind (items[·]?) := by
  apply Option.ext
  intro v
  rw [Option.bind_eq_some_iff, Option.bind_eq_some_iff]
  constructor
  · rintro ⟨k, hk, hv⟩
    obtain ⟨hlt, -⟩ := List.getElem?_eq_some_iff.mp hv
    exact ⟨k, (h k (by omega)).mp hk, hv⟩
  · rintro ⟨k, hk, hv⟩
    obtain ⟨hlt, -⟩ := List.getElem?_eq_some_iff.mp hv
    exact ⟨k, (h k (by omega)).mpr hk, hv⟩

/-- A list has the same item under a number and under its text, unless the
number is the zero with a sign. -/
theorem get?_list_text (hx : x ≠ Number.negativeZero) {items : List Value}
    (hlength : items.length ≤ 2 ^ 53) :
    (list items).get? (.string (Decimal.text x)) = (list items).get? (.number x) :=
  bind_getElem?_congr hlength fun _ hk => (indexOfNumber?_eq_some_iff hx hk).symm

/-- Under the zero with a sign a list has its first item, under its text
none. -/
theorem get?_list_negativeZero (items : List Value) :
    (list items).get? (.number Number.negativeZero) = items[0]? ∧
      (list items).get? (.string (Decimal.text Number.negativeZero)) = none := by
  obtain ⟨hnumber, htext⟩ := index_of_negativeZero
  constructor
  · show (indexOfNumber? Number.negativeZero).bind (items[·]?) = _
    rw [hnumber]
    rfl
  · show (indexOfText? (Decimal.text Number.negativeZero)).bind (items[·]?) = none
    rw [htext]
    rfl

-- =============================================================== paths

mutual

/-- No list in a value, at any depth, has more than `2 ^ 53` items. -/
def Short : Value → Prop
  | .list items => items.length ≤ 2 ^ 53 ∧ ShortItems items
  | .map pairs => ShortPairs pairs
  | .null | .boolean _ | .number _ | .string _ => True

/-- No list in the items of a list is long. -/
def ShortItems : List Value → Prop
  | [] => True
  | v :: rest => Short v ∧ ShortItems rest

/-- No list in the values of a dictionary is long. -/
def ShortPairs : List (String × Value) → Prop
  | [] => True
  | (_, v) :: rest => Short v ∧ ShortPairs rest

end

theorem ShortItems.of_mem {items : List Value} (h : ShortItems items) {v : Value}
    (hv : v ∈ items) : v.Short := by
  induction items with
  | nil => cases hv
  | cons first rest ih =>
      rcases List.mem_cons.mp hv with rfl | hv
      · exact h.1
      · exact ih h.2 hv

theorem ShortPairs.of_mem {pairs : List (String × Value)} (h : ShortPairs pairs) {name : String}
    {v : Value} (hv : (name, v) ∈ pairs) : v.Short := by
  induction pairs with
  | nil => cases hv
  | cons first rest ih =>
      rcases List.mem_cons.mp hv with rfl | hv
      · exact h.1
      · exact ih h.2 hv

/-- What is looked up in a value without long lists has none. -/
theorem Short.get? {v key w : Value} (h : v.Short) (hw : v.get? key = some w) : w.Short := by
  cases v with
  | list items =>
      obtain ⟨k, -, hk⟩ := Option.bind_eq_some_iff.mp hw
      exact ShortItems.of_mem h.2 (List.mem_of_getElem? hk)
  | map pairs => exact ShortPairs.of_mem h (Dictionary.mem_of_get? hw)
  | _ => cases hw

/-- Keys that are the same but for a number that stands for its text, or a
text that stands for its number. -/
inductive Respelled : Value → Value → Prop
  | same (key : Value) : Respelled key key
  | asText {x : Float} (hx : x ≠ Number.negativeZero) :
      Respelled (.number x) (.string (Decimal.text x))
  | asNumber {x : Float} (hx : x ≠ Number.negativeZero) :
      Respelled (.string (Decimal.text x)) (.number x)

theorem get?_text (hx : x ≠ Number.negativeZero) {v : Value} (hv : v.Short) :
    v.get? (.string (Decimal.text x)) = v.get? (.number x) := by
  cases v with
  | list items => exact get?_list_text hx hv.1
  | _ => rfl

theorem get?_respelled {v key key' : Value} (hv : v.Short) (h : Respelled key key') :
    v.get? key = v.get? key' := by
  cases h with
  | same => rfl
  | asText hx => exact (get?_text hx hv).symm
  | asNumber hx => exact get?_text hx hv

theorem text_respelled {key key' : Value} (h : Respelled key key') : key.text = key'.text := by
  cases h <;> rfl

theorem texts_respelled {keys keys' : List Value} (h : List.Forall₂ Respelled keys keys') :
    keys.map text = keys'.map text := by
  induction h with
  | nil => rfl
  | cons hkey _ ih => rw [List.map_cons, List.map_cons, text_respelled hkey, ih]

/-- Further keys lead to the same value. The induction is on the keys, for
whatever value they start from. -/
theorem foldl_respelled {keys keys' : List Value} (h : List.Forall₂ Respelled keys keys')
    {v : Option Value} (hv : ∀ w, v = some w → w.Short) :
    keys.foldl (fun v key => v.bind (·.get? key)) v
      = keys'.foldl (fun v key => v.bind (·.get? key)) v := by
  induction h generalizing v with
  | nil => rfl
  | @cons key key' _ _ hkey _ ih =>
      have hstep : v.bind (·.get? key) = v.bind (·.get? key') :=
        Option.bind_congr fun w hw => get?_respelled (hv w hw) hkey
      rw [List.foldl_cons, List.foldl_cons, hstep]
      refine ih fun w hw => ?_
      obtain ⟨u, hu, hget⟩ := Option.bind_eq_some_iff.mp hw
      exact (hv u hu).get? hget

/-- Respelled keys lead a walk to the same value. -/
theorem walk?_respelled {s : Scope} (hs : ∀ name v, s.get? name = some v → v.Short)
    {keys keys' : List Value} (h : List.Forall₂ Respelled keys keys') :
    s.walk? keys = s.walk? keys' := by
  cases h with
  | nil => rfl
  | cons hkey hrest =>
      unfold Scope.walk?
      simp only
      rw [text_respelled hkey]
      exact foldl_respelled hrest (hs _)

-- ================================================== numbers and texts

/-- A number indexes as its text does. A dictionary has the same value
under both. A list of up to `2 ^ 53` items has the same item under both,
or none, exactly if the number is not the zero with a sign or there are no
items; the zero with a sign is the index zero, and its text is none. So a
path leads to the same value, or to the same text in place of one, if
numbers other than that zero stand in it as their texts, or texts as
numbers. -/
theorem number_indexes_as_text (x : Float) :
    (∀ pairs, (map pairs).get? (.string (Decimal.text x)) = (map pairs).get? (.number x)) ∧
    (∀ items : List Value, items.length ≤ 2 ^ 53 →
      ((list items).get? (.string (Decimal.text x)) = (list items).get? (.number x) ↔
        x ≠ Number.negativeZero ∨ items = [])) ∧
    (x ≠ Number.negativeZero → ∀ k < 2 ^ 53,
      indexOfNumber? x = some k ↔ indexOfText? (Decimal.text x) = some k) ∧
    indexOfNumber? Number.negativeZero = some 0 ∧
    indexOfText? (Decimal.text Number.negativeZero) = none ∧
    (∀ (s : Scope) (keys keys' : List Value), (∀ name v, s.get? name = some v → v.Short) →
      List.Forall₂ Respelled keys keys' → s.walk keys = s.walk keys') := by
  refine ⟨fun pairs => rfl, fun items hlength => ⟨fun heq => ?_, fun h => ?_⟩,
    fun hx k hk => indexOfNumber?_eq_some_iff hx hk, index_of_negativeZero.1,
    index_of_negativeZero.2, fun s keys keys' hs hkeys => ?_⟩
  · by_contra hcontra
    obtain ⟨hx, hitems⟩ := not_or.mp hcontra
    rw [not_not] at hx
    subst hx
    obtain ⟨hnumber, htext⟩ := get?_list_negativeZero items
    rw [hnumber, htext] at heq
    have hempty : items.length ≤ 0 := List.getElem?_eq_none_iff.mp heq.symm
    exact hitems (List.length_eq_zero_iff.mp (Nat.le_zero.mp hempty))
  · rcases h with hx | rfl
    · exact get?_list_text hx hlength
    · simp [get?]
  · unfold Scope.walk
    rw [walk?_respelled hs hkeys, texts_respelled hkeys]

/-- Two names under one variable. -/
def crew : Scope := .ofDictionary [("crew", .list [.string "Ann", .string "Bob"])]

theorem short_crew (name : String) (v : Value) (h : crew.get? name = some v) : v.Short := by
  obtain ⟨frame, hframe, hv⟩ := List.exists_of_findSome?_eq_some h
  obtain rfl := List.mem_singleton.mp hframe
  have hmem : (name, v) ∈ [("crew", list [.string "Ann", .string "Bob"])] :=
    Dictionary.mem_of_mem_ofList (Dictionary.mem_of_get? hv)
  cases List.mem_singleton.mp hmem
  exact ⟨by decide, trivial, trivial, trivial⟩

/-- The second of two names is found under the number one and under its
text, also in a path. -/
theorem number_indexes_as_text_crew :
    (list [.string "Ann", .string "Bob"]).get? (.string (Decimal.text 1))
      = (list [.string "Ann", .string "Bob"]).get? (.number 1) ∧
    (list [.string "Ann", .string "Bob"]).get? (.number 1) = some (.string "Bob") ∧
    indexOfText? (Decimal.text 1) = some 1 ∧
    crew.walk [.string "crew", .number 1] = crew.walk [.string "crew", .string (Decimal.text 1)] := by
  have hone : (1 : Float) ≠ Number.negativeZero := by decide +kernel
  have hnumber : indexOfNumber? 1 = some 1 := by decide +kernel
  obtain ⟨-, hlist, hindex, -, -, hwalk⟩ := number_indexes_as_text 1
  refine ⟨(hlist _ (by decide)).mpr (Or.inl hone), ?_, (hindex hone 1 (by decide)).mp hnumber,
    hwalk crew _ _ short_crew (.cons (.same _) (.cons (.asText hone) .nil))⟩
  show (indexOfNumber? 1).bind ([string "Ann", string "Bob"][·]?) = some (string "Bob")
  rw [hnumber]
  rfl

/-- Under the zero with a sign there is the first item, under its text
there is none. -/
theorem negativeZero_indexes_as_number :
    Decimal.text Number.negativeZero = "-0" ∧
    ((list [.string "Ann", .string "Bob"]).get? (.number Number.negativeZero)
      = some (.string "Ann")) ∧
    (list [.string "Ann", .string "Bob"]).get? (.string "-0") = none := by
  have htext : Decimal.text Number.negativeZero = "-0" := by decide +kernel
  obtain ⟨hnumber, hnone⟩ := get?_list_negativeZero [.string "Ann", .string "Bob"]
  rw [htext] at hnone
  exact ⟨htext, hnumber, hnone⟩

end Value

end MessageCatalog
