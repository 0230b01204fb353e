/-
When equal numbers are the same.

Numbers are compared as numbers, so two of them can be equal and still
print differently, and one of them can differ from itself. Both happen
for a single number each: equal numbers are the same unless one is the
zero with a sign (`eq_of_beq`), and a number is equal to itself unless it
is not a number (`beq_self_iff`).

# From bits to numbers

A comparison looks at the unpacked form of a number. The fields that it
was read from (sign, exponent, mantissa) can be read back from there
(`fields_unpack`), and what is not a number has one pattern of bits, so
numbers that unpack alike are the same (`eq_of_unpack_eq`). What is left
is a look at what the comparison takes for equal.
-/
import Mathlib
import MessageCatalog.Value

namespace MessageCatalog.Number

open Float.Model Float.Model.UnpackedFloat

-- ============================================================== fields

/-- The bits of a number. -/
abbrev Bits := BitVec Format.binary64.numBits

theorem toNat_mantissa (b : Bits) : (unpackMantissa b).toNat = b.toNat % 2 ^ 52 := by
  simp [unpackMantissa]

theorem toNat_exponent (b : Bits) : (unpackExponent b).toNat = b.toNat / 2 ^ 52 % 2 ^ 11 := by
  simp [unpackExponent, Nat.shiftRight_eq_div_pow]

theorem toNat_sign (b : Bits) : (unpackSign b).toNat = b.toNat / 2 ^ 63 % 2 := by
  simp [unpackSign, Nat.shiftRight_eq_div_pow]

/-- The three fields are all there is to the bits. -/
theorem eq_of_fields {a b : Bits} (hs : unpackSign a = unpackSign b)
    (he : unpackExponent a = unpackExponent b) (hm : unpackMantissa a = unpackMantissa b) :
    a = b := by
  have hs' := congrArg BitVec.toNat hs
  have he' := congrArg BitVec.toNat he
  have hm' := congrArg BitVec.toNat hm
  rw [toNat_sign, toNat_sign] at hs'
  rw [toNat_exponent, toNat_exponent] at he'
  rw [toNat_mantissa, toNat_mantissa] at hm'
  have ha : a.toNat < 2 ^ 64 := a.isLt
  have hb : b.toNat < 2 ^ 64 := b.isLt
  refine BitVec.eq_of_toNat_eq ?_
  omega

/-- The fields that an unpacked number was read from. A mantissa without
the implicit bit belongs to the exponent zero. -/
def fields : UnpackedFloat → Option (BitVec 1 × Nat × Nat)
  | .notANumber => none
  | .infinity s => some (s.toBitVec, 2047, 0)
  | .zero s => some (s.toBitVec, 0, 0)
  | .finite s m e _ =>
    some (s.toBitVec, if m < 2 ^ 52 then 0 else (e + 1075).toNat, m % 2 ^ 52)

theorem toBitVec_ofBitVec : ∀ s : BitVec 1, (Sign.ofBitVec s).toBitVec = s := by decide

theorem toNat_implicit (m : BitVec 52) : (1#1 ++ m).toNat = 2 ^ 52 + m.toNat := by
  rw [BitVec.toNat_append, ← Nat.shiftLeft_add_eq_or_of_lt m.isLt]
  rfl

/-- Unpacking loses no field. The cases are those of the unpacking:
infinite, zero, subnormal and normal numbers. -/
theorem fields_unpack {b : Bits} (h : UnpackedFloat.unpack Format.binary64 b ≠ .notANumber) :
    fields (UnpackedFloat.unpack Format.binary64 b)
      = some (unpackSign b, (unpackExponent b).toNat, (unpackMantissa b).toNat) := by
  have hlt : (unpackMantissa b).toNat < 2 ^ 52 := (unpackMantissa b).isLt
  have hbias : (Format.binary64.exponentBias : Int) = 1023 := by decide
  revert h
  unfold UnpackedFloat.unpack
  simp only
  split
  · split
    · rename_i he hm
      intro _
      simp [fields, he, hm]
    · exact fun h => absurd rfl h
  · split
    · split
      · rename_i he hm
        intro _
        simp [fields, he, hm]
      · rename_i he _
        intro _
        have hmod : (unpackMantissa b).toNat % 2 ^ 52 = (unpackMantissa b).toNat :=
          Nat.mod_eq_of_lt hlt
        simp only [fields, toBitVec_ofBitVec, he, if_pos hlt, hmod]
        rfl
    · intro _
      simp only [fields, toBitVec_ofBitVec, toNat_implicit, hbias, Option.some.injEq,
        Prod.mk.injEq, true_and]
      constructor
      · rw [if_neg (by omega)]
        omega
      · omega

/-- What is not a number has one pattern of bits. -/
theorem bits_of_notANumber {b : Bits} (hvalid : Format.binary64.Valid b)
    (h : UnpackedFloat.unpack Format.binary64 b = .notANumber) :
    b = packedNaN Format.binary64 := by
  revert h
  unfold UnpackedFloat.unpack
  simp only
  split
  · split
    · nofun
    · rename_i he hm
      exact fun _ => hvalid.eq_packedNaN he hm
  · split
    · split <;> nofun
    · nofun

/-- Numbers that unpack alike are the same. -/
theorem eq_of_unpack_eq {x y : Float} (h : x.toModel.unpack = y.toModel.unpack) : x = y := by
  obtain ⟨⟨⟨a⟩, ha⟩⟩ := x
  obtain ⟨⟨⟨b⟩, hb⟩⟩ := y
  have hunpack : UnpackedFloat.unpack Format.binary64 a
      = UnpackedFloat.unpack Format.binary64 b := h
  have hab : a = b := by
    by_cases hnan : UnpackedFloat.unpack Format.binary64 a = .notANumber
    · have ha' : a = packedNaN Format.binary64 := bits_of_notANumber ha hnan
      have hb' : b = packedNaN Format.binary64 := bits_of_notANumber hb (hunpack ▸ hnan)
      rw [ha', hb']
    · have hfields := fields_unpack hnan
      rw [hunpack, fields_unpack (hunpack ▸ hnan)] at hfields
      simp only [Option.some.injEq, Prod.mk.injEq] at hfields
      obtain ⟨hs, he, hm⟩ := hfields
      exact eq_of_fields hs.symm (BitVec.eq_of_toNat_eq he.symm) (BitVec.eq_of_toNat_eq hm.symm)
  subst hab
  rfl

-- ========================================================== comparison

theorem sign_eq_of_compare {s s' : Sign} (h : compare s s' = .eq) : s = s' := by
  cases s <;> cases s' <;> first | rfl | exact nomatch h

/-- Equal unpacked numbers are the same or both zero. -/
theorem unpacked_beq_cases {u v : UnpackedFloat} (h : u.beq v = true) :
    u = v ∨ ∃ s s', u = .zero s ∧ v = .zero s' := by
  have hc : u.compare v = some .eq := by simpa [UnpackedFloat.beq] using h
  cases u with
  | notANumber => cases v <;> exact nomatch hc
  | infinity s =>
      cases v with
      | infinity s' =>
          exact Or.inl (congrArg UnpackedFloat.infinity (sign_eq_of_compare (Option.some.inj hc)))
      | _ => cases s <;> exact nomatch hc
  | zero s =>
      cases v with
      | zero s' => exact Or.inr ⟨s, s', rfl, rfl⟩
      | notANumber => exact nomatch hc
      | infinity s' => cases s' <;> exact nomatch hc
      | finite s' m e hm => cases s' <;> exact nomatch hc
  | finite s m e hm =>
      cases v with
      | notANumber => cases s <;> exact nomatch hc
      | infinity s' => cases s <;> cases s' <;> exact nomatch hc
      | zero s' => cases s <;> exact nomatch hc
      | finite s' m' e' hm' =>
          left
          cases s <;> cases s' <;> simp [UnpackedFloat.compare] at hc ⊢
          all_goals exact hc.symm

theorem unpacked_beq_self {u : UnpackedFloat} : u.beq u = true ↔ u.isNaN = false := by
  cases u with
  | notANumber => simp [UnpackedFloat.beq, UnpackedFloat.compare, UnpackedFloat.isNaN]
  | infinity s =>
      cases s <;> simp [UnpackedFloat.beq, UnpackedFloat.compare, UnpackedFloat.isNaN] <;> rfl
  | zero s => simp [UnpackedFloat.beq, UnpackedFloat.compare, UnpackedFloat.isNaN]
  | finite s m e hm =>
      cases s <;> simp [UnpackedFloat.beq, UnpackedFloat.compare, UnpackedFloat.isNaN]

-- ============================================================= numbers

/-- The zero with a sign. -/
def negativeZero : Float := -0

/-- Equal numbers are the same unless one of them is the zero with a
sign. -/
theorem eq_of_beq {x y : Float} (h : (x == y) = true) (hx : x ≠ negativeZero)
    (hy : y ≠ negativeZero) : x = y := by
  have hunpack : x.toModel.unpack.beq y.toModel.unpack = true := h
  refine eq_of_unpack_eq ?_
  rcases unpacked_beq_cases hunpack with heq | ⟨s, s', hs, hs'⟩
  · exact heq
  · cases s with
    | negative => exact absurd (eq_of_unpack_eq (hs.trans rfl)) hx
    | positive =>
        cases s' with
        | negative => exact absurd (eq_of_unpack_eq (hs'.trans rfl)) hy
        | positive => rw [hs, hs']

/-- A number is equal to itself unless it is not a number. -/
theorem beq_self_iff {x : Float} : (x == x) = true ↔ x.isNaN = false :=
  unpacked_beq_self (u := x.toModel.unpack)

/-- Nothing is equal to what is not a number. -/
theorem isNaN_of_beq {x y : Float} (h : (x == y) = true) : y.isNaN = false := by
  have hunpack : x.toModel.unpack.beq y.toModel.unpack = true := h
  rcases unpacked_beq_cases hunpack with heq | ⟨s, s', _, hs'⟩
  · rw [heq] at hunpack
    exact unpacked_beq_self.mp hunpack
  · show y.toModel.unpack.isNaN = false
    rw [hs']
    rfl

/-- The two zeros are equal and not the same. -/
example : ((0 : Float) == negativeZero) = true ∧ (0 : Float) ≠ negativeZero :=
  ⟨rfl, by decide +kernel⟩

end MessageCatalog.Number
