/-
What stands behind a double.

The fields of a double are read in two ways: as a sign and a magnitude
(`read`), from which all texts are made, and in unpacked form, on which
arithmetic is defined. The two say the same (`read_eq`), so what arithmetic
does can be told from magnitudes. A magnitude that belongs to a double has a
significand of fifty-three bits, all of them used unless the exponent is the
least one (`Canonical`), and every such magnitude belongs to a double of
either sign (`read_packed`).
-/
import MessageCatalog.Proofs.Number
import MessageCatalog.Decimal.Binary

namespace MessageCatalog.Decimal

open Float.Model Float.Model.UnpackedFloat

-- ========================================================== magnitudes

/-- The number that a magnitude is. -/
def Magnitude.exact (m : Magnitude) : ℚ := m.significand * (2 : ℚ) ^ m.exponent

/-- The magnitude of a finite double. -/
structure Canonical (m : Magnitude) : Prop where
  significand_lt : m.significand < 2 ^ 53
  exponent_ge : -1074 ≤ m.exponent
  exponent_le : m.exponent ≤ 971
  normal : 2 ^ 52 ≤ m.significand ∨ m.exponent = -1074

variable {x : Float} {negative : Bool} {m : Magnitude}

theorem canonical_of_read (h : read x = .finite negative m) : Canonical m := by
  have hbits : exponentBits x < 2 ^ 11 := Nat.mod_lt _ (by decide)
  have hfraction : fractionBits x < 2 ^ 52 := Nat.mod_lt _ (by decide)
  have htwo : twoTo 52 = 2 ^ 52 := rfl
  unfold read at h
  split at h
  · split at h <;> cases h
  · cases h
    unfold magnitude
    split
    · exact ⟨Nat.lt_trans hfraction (by decide), le_refl (-1074 : Int),
        (by decide : (-1074 : Int) ≤ 971), Or.inr rfl⟩
    · constructor <;> simp only [htwo] <;> omega

-- ===================================================== unpacked doubles

/-- Whether the sign is a minus sign. -/
def isMinus : Sign → Bool
  | .negative => true
  | .positive => false

/-- What an unpacked double stands for. -/
def reading : UnpackedFloat → Reading
  | .notANumber => .notANumber
  | .infinity s => .infinite (isMinus s)
  | .zero s => .finite (isMinus s) ⟨0, -1074⟩
  | .finite s m e _ => .finite (isMinus s) ⟨m, e⟩

theorem isMinus_ofBitVec (b : Number.Bits) :
    isMinus (Sign.ofBitVec (unpackSign b)) = decide (2 ^ 63 ≤ b.toNat) := by
  have hlt : b.toNat < 2 ^ 64 := b.isLt
  have hsign := Number.toNat_sign b
  have hzero : unpackSign b = 0#1 ↔ (unpackSign b).toNat = 0 := BitVec.toNat_inj.symm
  unfold Sign.ofBitVec
  by_cases hb : 2 ^ 63 ≤ b.toNat
  · rw [if_neg (by rw [hzero]; omega), decide_eq_true hb]
    rfl
  · rw [if_pos (by rw [hzero]; omega), decide_eq_false hb]
    rfl

/-- The bits of a double. -/
def bits (x : Float) : Number.Bits := x.toModel.toBits.toBitVec

theorem exponentBits_eq (x : Float) : exponentBits x = (unpackExponent (bits x)).toNat :=
  (Number.toNat_exponent (bits x)).symm

theorem fractionBits_eq (x : Float) : fractionBits x = (unpackMantissa (bits x)).toNat :=
  (Number.toNat_mantissa (bits x)).symm

theorem signBit_eq (x : Float) : signBit x = isMinus (Sign.ofBitVec (unpackSign (bits x))) :=
  (isMinus_ofBitVec (bits x)).symm

/-- A double stands for the same in both forms. The cases are those of the
unpacking: infinite, zero, subnormal and normal numbers. -/
theorem read_eq (x : Float) : read x = reading x.toModel.unpack := by
  show read x = reading (UnpackedFloat.unpack Format.binary64 (bits x))
  have hbias : (Format.binary64.exponentBias : Int) = 1023 := by decide
  unfold read magnitude
  rw [exponentBits_eq, fractionBits_eq, signBit_eq]
  generalize bits x = b
  have hones : unpackExponent b = -1#_ ↔ (unpackExponent b).toNat = 2047 := BitVec.toNat_inj.symm
  have hzero : unpackExponent b = 0#_ ↔ (unpackExponent b).toNat = 0 := BitVec.toNat_inj.symm
  have hnone : unpackMantissa b = 0#_ ↔ (unpackMantissa b).toNat = 0 := BitVec.toNat_inj.symm
  unfold UnpackedFloat.unpack
  simp only [hones, hzero, hnone]
  split
  · split <;> rfl
  · split
    · split
      · rename_i he hm
        simp only [reading, hm]
      · rename_i he _
        simp only [reading, he, hbias]
        rfl
    · simp only [reading, Number.toNat_implicit, hbias]
      rfl

-- ========================================================= making doubles

/-- The unpacked form of a sign and a magnitude. -/
def unpacked (s : Sign) (m : Magnitude) : UnpackedFloat :=
  if h : 0 < m.significand then .finite s m.significand m.exponent h else .zero s

/-- The double with a sign and a magnitude. -/
def packed (s : Sign) (m : Magnitude) : Float := .ofModel (Float.Model.pack (unpacked s m))

theorem unpacked_of_pos (s : Sign) (h : 0 < m.significand) :
    unpacked s m = .finite s m.significand m.exponent h := dif_pos h

theorem unpacked_of_zero (s : Sign) (h : m.significand = 0) : unpacked s m = .zero s :=
  dif_neg (by omega)

theorem Canonical.eq_zero (h : Canonical m) (hzero : m.significand = 0) : m = ⟨0, -1074⟩ := by
  obtain ⟨significand, exponent⟩ := m
  have hnormal := h.normal
  simp only at hzero hnormal
  subst hzero
  rcases hnormal with hlow | rfl
  · omega
  · rfl

theorem reading_unpacked (s : Sign) (h : Canonical m) :
    reading (unpacked s m) = .finite (isMinus s) m := by
  by_cases hpos : 0 < m.significand
  · rw [unpacked_of_pos s hpos]
    rfl
  · have hzero : m.significand = 0 := by omega
    rw [unpacked_of_zero s hzero, h.eq_zero hzero]
    rfl

/-- The unpacked form of a double is that of what it stands for. -/
theorem unpack_of_read (h : read x = .finite negative m) :
    ∃ s, isMinus s = negative ∧ x.toModel.unpack = unpacked s m := by
  rw [read_eq] at h
  cases hu : x.toModel.unpack with
  | notANumber => rw [hu] at h; cases h
  | infinity s => rw [hu] at h; cases h
  | zero s =>
      rw [hu] at h
      cases h
      exact ⟨s, rfl, rfl⟩
  | finite s significand exponent hpos =>
      rw [hu] at h
      cases h
      exact ⟨s, rfl, (dif_pos hpos).symm⟩

/-- A packed normal number unpacks to what was packed. -/
theorem unpack_pack_normal (s : Sign) {significand : Nat} {exponent : Int} (hpos : 0 < significand)
    (hlow : 2 ^ 52 ≤ significand) (hhigh : significand < 2 ^ 53) (hge : -1074 ≤ exponent)
    (hle : exponent ≤ 971) :
    UnpackedFloat.unpack Format.binary64
        (UnpackedFloat.pack Format.binary64 (.finite s significand exponent hpos))
      = .finite s significand exponent hpos := by
  have hbias : (Format.binary64.exponentBias : Int) = 1023 := by decide
  have hlog : significand.log2 + 1 = Format.binary64.mantissaBits := by
    have hlog2 : significand.log2 = 52 := (Nat.log2_eq_iff (by omega)).mpr ⟨hlow, hhigh⟩
    rw [hlog2]
    rfl
  obtain ⟨biased, hbiased⟩ :=
    Int.eq_ofNat_of_zero_le (show 0 ≤ exponent + 1023 + (52 : Nat) by omega)
  have htoNat : (BitVec.ofNat 11 biased).toNat = biased := by
    rw [BitVec.toNat_ofNat]
    omega
  have hnotOnes : BitVec.ofNat 11 biased ≠ -1#11 := by
    intro h
    have := congrArg BitVec.toNat h
    rw [htoNat] at this
    simp at this
    omega
  have hnotZero : BitVec.ofNat 11 biased ≠ 0#11 := by
    intro h
    have := congrArg BitVec.toNat h
    rw [htoNat] at this
    simp at this
    omega
  have hsignificand : (1#1 ++ BitVec.ofNat 52 significand).toNat = significand := by
    rw [Number.toNat_implicit, BitVec.toNat_ofNat]
    omega
  have hpacked : UnpackedFloat.pack Format.binary64 (.finite s significand exponent hpos)
      = packComponents Format.binary64 s (BitVec.ofNat 11 biased)
        (BitVec.ofNat 52 significand) := by
    unfold UnpackedFloat.pack
    simp only [hbias, hbiased, Int.toNat_natCast]
    rw [if_neg (by omega), if_pos hlog]
  rw [hpacked]
  unfold UnpackedFloat.unpack
  simp only [unpackExponent_packComponents, unpackMantissa_packComponents,
    unpackSign_packComponents, Sign.ofBitVec_toBitVec]
  rw [if_neg hnotOnes, if_neg hnotZero]
  simp only [hsignificand, htoNat, hbias]
  congr 1
  omega

/-- A packed subnormal number unpacks to what was packed. -/
theorem unpack_pack_subnormal (s : Sign) {significand : Nat} (hpos : 0 < significand)
    (hhigh : significand < 2 ^ 52) :
    UnpackedFloat.unpack Format.binary64
        (UnpackedFloat.pack Format.binary64 (.finite s significand (-1074) hpos))
      = .finite s significand (-1074) hpos := by
  have hbias : (Format.binary64.exponentBias : Int) = 1023 := by decide
  have hlog : ¬significand.log2 + 1 = Format.binary64.mantissaBits := by
    have hlog2 : significand.log2 < 52 := (Nat.log2_lt (by omega)).mpr hhigh
    have hbits : Format.binary64.mantissaBits = 53 := rfl
    omega
  have htoNat : (BitVec.ofNat 52 significand).toNat = significand := by
    rw [BitVec.toNat_ofNat]
    omega
  have hnotZero : BitVec.ofNat 52 significand ≠ 0#52 := by
    intro h
    have := congrArg BitVec.toNat h
    rw [htoNat] at this
    simp at this
    omega
  have hpacked : UnpackedFloat.pack Format.binary64 (.finite s significand (-1074) hpos)
      = packComponents Format.binary64 s 0#11 (BitVec.ofNat 52 significand) := by
    unfold UnpackedFloat.pack
    simp only [hbias]
    rw [if_neg (by decide), if_neg hlog]
  rw [hpacked]
  unfold UnpackedFloat.unpack
  simp only [unpackExponent_packComponents, unpackMantissa_packComponents,
    unpackSign_packComponents, Sign.ofBitVec_toBitVec]
  rw [if_neg (by decide), if_pos trivial, dif_neg hnotZero]
  simp only [htoNat, hbias]
  rfl

/-- Packing loses nothing. -/
theorem unpack_packed (s : Sign) (h : Canonical m) :
    (packed s m).toModel.unpack = unpacked s m := by
  show UnpackedFloat.unpack Format.binary64 (UnpackedFloat.pack Format.binary64 (unpacked s m))
    = unpacked s m
  by_cases hpos : 0 < m.significand
  · rw [unpacked_of_pos s hpos]
    by_cases hlow : 2 ^ 52 ≤ m.significand
    · exact unpack_pack_normal s hpos hlow h.significand_lt h.exponent_ge h.exponent_le
    · have hexponent : m.exponent = -1074 := h.normal.resolve_left hlow
      simp only [hexponent]
      exact unpack_pack_subnormal s hpos (Nat.lt_of_not_le hlow)
  · rw [unpacked_of_zero s (by omega)]
    exact unpack_packedZero

theorem read_packed (s : Sign) (h : Canonical m) : read (packed s m) = .finite (isMinus s) m := by
  rw [read_eq, unpack_packed s h, reading_unpacked s h]

/-- Negation changes the sign. -/
theorem neg_eq_packed {s : Sign} (hu : x.toModel.unpack = unpacked s m) : -x = packed (-s) m := by
  have hneg : (unpacked s m).neg = unpacked (-s) m := by
    unfold unpacked
    split <;> rfl
  show Float.ofModel (Float.Model.pack x.toModel.unpack.neg) = _
  rw [hu, hneg]
  rfl

/-- The same magnitude has a double of the other sign. -/
theorem read_neg (h : read x = .finite negative m) : read (-x) = .finite (!negative) m := by
  obtain ⟨s, hs, hu⟩ := unpack_of_read h
  have hminus : isMinus (-s) = !isMinus s := by cases s <;> rfl
  rw [neg_eq_packed hu, read_packed _ (canonical_of_read h), hminus, hs]

/-- A finite double is told by its sign and its magnitude. -/
theorem eq_of_read {y : Float} (hx : read x = .finite negative m)
    (hy : read y = .finite negative m) : x = y := by
  obtain ⟨s, hs, hux⟩ := unpack_of_read hx
  obtain ⟨s', hs', huy⟩ := unpack_of_read hy
  have hsign : s = s' := by
    rw [← hs] at hs'
    cases s <;> cases s' <;> first | rfl | cases hs'
  apply Number.eq_of_unpack_eq
  rw [hux, huy, hsign]

/-- A finite double is at least zero unless it has a minus sign and is not
zero. -/
theorem nonneg_iff (h : read x = .finite negative m) :
    0 ≤ x ↔ negative = false ∨ m.significand = 0 := by
  obtain ⟨s, rfl, hu⟩ := unpack_of_read h
  have hle : 0 ≤ x ↔ UnpackedFloat.le (.zero .positive) x.toModel.unpack = true := by
    show Float.le 0 x = true ↔ _
    unfold Float.le
    rw [decide_eq_true_iff]
    rfl
  rw [hle, hu]
  by_cases hpos : 0 < m.significand
  · rw [unpacked_of_pos s hpos]
    cases s <;> simp [UnpackedFloat.le, UnpackedFloat.compare, isMinus]
    omega
  · rw [unpacked_of_zero s (by omega)]
    cases s <;> simp [UnpackedFloat.le, UnpackedFloat.compare, isMinus]
    omega

end MessageCatalog.Decimal
