/-
Reading a number gives the double to which it rounds.

A decimal text denotes a sign and a numeral, and the numeral is read in one
of two ways. Digits that fit a double are multiplied or divided, in one
rounded operation, by a power of ten that a double has exactly; what is too
long for that is multiplied or divided as whole numbers, and the result
rounded. Both come to the double in whose interval the numeral is
(`ofScientific_nearest`), so a text is read as the double to which the number
that it denotes rounds (`ofText?_of_denoted`). The shortest numeral of a
double is in its interval, so a finite number is read back from its own text
(`ofText?_text`).

# Extremes

Before anything is multiplied, scales far off are answered with zero or
infinity. A power of ten is further off than the power of two with three
times the exponent, and doubles end long before the scales that are cut off
(`scale_bounds`, `bounds_of_holds`), so this is never the answer for a number
that rounds to a double.
-/
import MessageCatalog.Proofs.Decimal.Rounding

namespace MessageCatalog.Decimal

open Float.Model Float.Model.UnpackedFloat

variable {m : Magnitude} {q : ℚ} {n : Nat} {x : Float}

-- ======================================================== whole doubles

/-- A natural number as the magnitude of a double. -/
def wide (n : Nat) : Magnitude := ⟨n * 2 ^ (52 - n.log2), n.log2 - 52⟩

theorem significand_wide_ge (hpos : 0 < n) (hlt : n < 2 ^ 53) : 2 ^ 52 ≤ (wide n).significand := by
  have hlog : n.log2 ≤ 52 := log2_le hlt
  calc 2 ^ 52 = 2 ^ n.log2 * 2 ^ (52 - n.log2) := by
        rw [← Nat.pow_add]
        congr 1
        omega
    _ ≤ n * 2 ^ (52 - n.log2) :=
        Nat.mul_le_mul_right _ (Nat.log2_self_le (by omega))

theorem canonical_wide (hpos : 0 < n) (hlt : n < 2 ^ 53) : Canonical (wide n) := by
  have hlog : n.log2 ≤ 52 := log2_le hlt
  have hpow : 2 ^ (n.log2 + 1) * 2 ^ (52 - n.log2) = 2 ^ 53 := by
    rw [← Nat.pow_add]
    congr 1
    omega
  have hhigh := Nat.mul_lt_mul_of_pos_right (Nat.lt_log2_self (n := n))
    (Nat.two_pow_pos (52 - n.log2))
  rw [hpow] at hhigh
  refine ⟨hhigh, ?_, ?_, Or.inl (significand_wide_ge hpos hlt)⟩
  · show (-1074 : ℤ) ≤ n.log2 - 52
    omega
  · show (n.log2 - 52 : ℤ) ≤ 971
    omega

theorem wide_pos (hpos : 0 < n) : 0 < (wide n).significand :=
  Nat.mul_pos hpos (Nat.two_pow_pos _)

theorem exact_wide (hlt : n < 2 ^ 53) : (wide n).exact = n := by
  have hlog : n.log2 ≤ 52 := log2_le hlt
  have hexponent : (n.log2 - 52 : ℤ) = -(52 - n.log2 : Nat) := by omega
  unfold wide Magnitude.exact
  simp only
  rw [hexponent, zpow_neg, zpow_natCast]
  push_cast
  field_simp

/-- A machine word of up to fifty-three bits is converted exactly. -/
theorem toFloat_eq (hpos : 0 < n) (hlt : n < 2 ^ 53) :
    n.toUInt64.toFloat = packed .positive (wide n) := by
  have hword : n.toUInt64.toNat = n := by
    rw [Nat.toUInt64_eq, UInt64.toNat_ofNat']
    omega
  have hcanonical := canonical_wide hpos hlt
  have hlog : n.log2 ≤ 52 := log2_le hlt
  have hnormalize : UnpackedFloat.ofUInt64 Format.binary64 n.toUInt64
      = UnpackedFloat.round Format.binary64 .positive n 0 := by
    have hcompare : compare (n : ℤ) 0 = .gt := by
      rw [Int.compare_eq_gt]
      omega
    show UnpackedFloat.ofInt Format.binary64 n.toUInt64.toNat = _
    rw [hword]
    unfold UnpackedFloat.ofInt UnpackedFloat.normalize
    rw [hcompare]
    rfl
  -- The shift gives it fifty-three bits, and there is nothing to round.
  have hshift : decreaseExponent n 0 (Format.binary64.targetExponent (totalExponent n 0))
      = ((wide n).significand, (wide n).exponent) := by
    have hamount : (0 - Format.binary64.targetExponent (totalExponent n 0)).toNat
        = 52 - n.log2 := by
      rw [targetExponent_eq, totalExponent]
      omega
    unfold decreaseExponent wide
    simp only [hamount, Nat.shiftLeft_eq]
    refine Prod.ext rfl ?_
    show (0 : ℤ) - (52 - n.log2 : Nat) = n.log2 - 52
    omega
  have hstands : Stands (.ofMantissaAndAccuracy (wide n).significand .exact)
      ((wide n).exact / 2 ^ (wide n).exponent) := by
    unfold Magnitude.exact
    rw [mul_div_cancel_right₀ _ (by positivity)]
    rfl
  have hpos' := wide_pos hpos
  have hround := round_nearest .positive hcanonical hpos' hstands (le_refl _) (holds_exact hpos')
  show Float.ofModel (Float.Model.pack (UnpackedFloat.ofUInt64 Format.binary64 n.toUInt64)) = _
  rw [hnormalize]
  unfold packed UnpackedFloat.round
  dsimp only
  rw [unpacked_of_pos _ hpos', hshift]
  dsimp only
  rw [hround]

-- ======================================================== powers of ten

/-- A power of ten that has an exact double. -/
def smallPower (n : Nat) : Float := Float.exactlyRepresentablePowersOfTen[n]!

theorem read_smallPower (h : n ≤ 22) :
    ∃ m, read (smallPower n) = .finite false m ∧ m.exact = 10 ^ n ∧ 2 ≤ m.significand := by
  have hall : ∀ i : Fin 23, read (smallPower i) = .finite false (magnitude (smallPower i)) ∧
      10 ^ i.val * (magnitude (smallPower i)).den = (magnitude (smallPower i)).num ∧
      2 ≤ (magnitude (smallPower i)).significand := by
    decide +kernel
  obtain ⟨hread, hnum, hlong⟩ := hall ⟨n, by omega⟩
  refine ⟨_, hread, ?_, hlong⟩
  rw [← (exact_eq_iff _ _).mpr hnum]
  push_cast
  rfl

/-- What is multiplied or divided to read a short number. -/
theorem ofScientific_short {d : Nat} (hd : d < 2 ^ 53) (h : n ≤ 22) (small : Bool) :
    Float.ofScientific d small n
      = if small = true then d.toUInt64.toFloat / smallPower n
        else d.toUInt64.toFloat * smallPower n := by
  have hlt : n < Float.exactlyRepresentablePowersOfTen.size := by
    show n < 23
    omega
  unfold Float.ofScientific smallPower
  rw [dif_pos ⟨hd, h⟩, getElem!_pos Float.exactlyRepresentablePowersOfTen n hlt]

-- ======================================================= short numerals

variable {y : Float} {s₁ s₂ : Sign} {m₁ m₂ : Magnitude}

theorem mul_packed (hx : x.toModel.unpack = unpacked s₁ m₁) (hy : y.toModel.unpack = unpacked s₂ m₂)
    (hcanonical : Canonical m) (hpos : 0 < m.significand)
    (hlong : 2 ^ 53 ≤ m₁.significand * m₂.significand)
    (h : (Interval.ofMagnitude m).Holds (m₁.exact * m₂.exact)) : x * y = packed (s₁ * s₂) m := by
  have h₁ : 0 < m₁.significand := Nat.pos_of_ne_zero fun hzero => by simp [hzero] at hlong
  have h₂ : 0 < m₂.significand := Nat.pos_of_ne_zero fun hzero => by simp [hzero] at hlong
  rw [unpacked_of_pos s₁ h₁] at hx
  rw [unpacked_of_pos s₂ h₂] at hy
  show Float.ofModel (Float.Model.pack
    (UnpackedFloat.mul Format.binary64 x.toModel.unpack y.toModel.unpack)) = _
  rw [hx, hy, mul_nearest s₁ s₂ hcanonical hpos h₁ h₂ hlong h, packed, unpacked_of_pos _ hpos]

theorem div_packed (hx : x.toModel.unpack = unpacked s₁ m₁) (hy : y.toModel.unpack = unpacked s₂ m₂)
    (hcanonical : Canonical m) (hpos : 0 < m.significand) (h₁ : 0 < m₁.significand)
    (h₂ : 0 < m₂.significand) (h : (Interval.ofMagnitude m).Holds (m₁.exact / m₂.exact)) :
    x / y = packed (s₁ / s₂) m := by
  rw [unpacked_of_pos s₁ h₁] at hx
  rw [unpacked_of_pos s₂ h₂] at hy
  show Float.ofModel (Float.Model.pack
    (UnpackedFloat.div Format.binary64 x.toModel.unpack y.toModel.unpack)) = _
  rw [hx, hy, div_nearest s₁ s₂ hcanonical hpos h₁ h₂ h, packed, unpacked_of_pos _ hpos]

variable {numeral : Numeral}

/-- The digits are multiplied or divided by a power of ten. -/
theorem exact_eq_ite (numeral : Numeral) :
    numeral.exact = if numeral.scale < 0 then numeral.digits / (10 : ℚ) ^ numeral.scale.natAbs
      else numeral.digits * 10 ^ numeral.scale.natAbs := by
  unfold Numeral.exact
  split
  · rename_i hneg
    have hscale : numeral.scale = -(numeral.scale.natAbs : ℤ) := by omega
    rw [div_eq_mul_inv, ← zpow_natCast, ← zpow_neg, ← hscale]
  · rename_i hnonneg
    have hscale : numeral.scale = (numeral.scale.natAbs : ℤ) := by omega
    rw [← zpow_natCast, ← hscale]

/-- A short numeral is read by one rounded operation. -/
theorem ofScientific_of_short (hcanonical : Canonical m) (hpos : 0 < m.significand)
    (hdigits : 0 < numeral.digits) (hlt : numeral.digits < 2 ^ 53)
    (hscale : numeral.scale.natAbs ≤ 22) (h : (Interval.ofMagnitude m).Holds numeral.exact) :
    Float.ofScientific numeral.digits (numeral.scale < 0) numeral.scale.natAbs
      = packed .positive m := by
  obtain ⟨power, hread, hexact, hlong⟩ := read_smallPower hscale
  obtain ⟨s, hs, hpower⟩ := unpack_of_read hread
  have hs' : s = .positive := by cases s <;> first | rfl | cases hs
  subst hs'
  have hdigits' := unpack_packed .positive (canonical_wide hdigits hlt)
  rw [exact_eq_ite, ← exact_wide hlt, ← hexact] at h
  rw [ofScientific_short hlt hscale, toFloat_eq hdigits hlt]
  by_cases hneg : numeral.scale < 0
  · rw [if_pos hneg] at h
    rw [if_pos (decide_eq_true hneg)]
    exact div_packed hdigits' hpower hcanonical hpos (wide_pos hdigits) (by omega) h
  · rw [if_neg hneg] at h
    rw [if_neg (by rw [decide_eq_true_iff]; exact hneg)]
    refine mul_packed hdigits' hpower hcanonical hpos ?_ h
    have hwide := significand_wide_ge hdigits hlt
    calc 2 ^ 53 = 2 ^ 52 * 2 := by norm_num
      _ ≤ _ := Nat.mul_le_mul hwide hlong

-- ============================================================= extremes

/-- Between which powers of two the reals are that round to a double. -/
theorem bounds_of_holds (hcanonical : Canonical m) (hpos : 0 < m.significand)
    (h : (Interval.ofMagnitude m).Holds q) : (2 : ℚ) ^ (-1076 : ℤ) ≤ q ∧ q < 2 ^ (1024 : ℤ) := by
  constructor
  · refine le_trans ?_ (quarter_le_of_holds hpos h)
    exact zpow_le_zpow_right₀ (by norm_num) (by have := hcanonical.exponent_ge; omega)
  · refine lt_of_lt_of_le (lt_of_holds_canonical hcanonical hpos h) ?_
    exact zpow_le_zpow_right₀ (by norm_num) (by have := hcanonical.exponent_le; omega)

/-- Three bits are less than a digit. -/
theorem two_pow_le_ten_pow {e : ℤ} (he : 0 ≤ e) : (2 : ℚ) ^ (3 * e) ≤ 10 ^ e := by
  rw [zpow_mul]
  exact zpow_le_zpow_left₀ he (by norm_num) (by norm_num)

theorem ten_pow_le_two_pow {e : ℤ} (he : e ≤ 0) : (10 : ℚ) ^ e ≤ 2 ^ (3 * e) := by
  have hinv := inv_anti₀ (by positivity) (two_pow_le_ten_pow (show 0 ≤ -e by omega))
  rw [← zpow_neg, ← zpow_neg, neg_neg] at hinv
  have hexponent : -(3 * -e) = 3 * e := by omega
  rwa [hexponent] at hinv

variable {d : Nat} {e : ℤ}

/-- A numeral that rounds to a double has no extreme scale. -/
theorem scale_bounds (hcanonical : Canonical m) (hpos : 0 < m.significand) (hd : 0 < d)
    (h : (Interval.ofMagnitude m).Holds (d * (10 : ℚ) ^ e)) :
    e ≤ 2 ^ 11 ∧ -(2 ^ 11 + (d.log2 : ℤ)) ≤ e := by
  obtain ⟨hlow, hhigh⟩ := bounds_of_holds hcanonical hpos h
  constructor
  · by_contra hlarge
    have hone : (1 : ℚ) ≤ d := by exact_mod_cast hd
    have hpow := two_pow_le_ten_pow (show 0 ≤ e by omega)
    have hlt : (2 : ℚ) ^ (3 * e) < 2 ^ (1024 : ℤ) :=
      calc (2 : ℚ) ^ (3 * e) ≤ 10 ^ e := hpow
        _ = 1 * 10 ^ e := (one_mul _).symm
        _ ≤ d * 10 ^ e := mul_le_mul_of_nonneg_right hone (by positivity)
        _ < 2 ^ (1024 : ℤ) := hhigh
    have := (zpow_lt_zpow_iff_right₀ (by norm_num)).mp hlt
    omega
  · by_contra hsmall
    have hpow := ten_pow_le_two_pow (show e ≤ 0 by omega)
    have hlt : (2 : ℚ) ^ (-1076 : ℤ) < 2 ^ ((d.log2 + 1 : Nat) + 3 * e) :=
      calc (2 : ℚ) ^ (-1076 : ℤ) ≤ d * 10 ^ e := hlow
        _ ≤ d * 2 ^ (3 * e) := mul_le_mul_of_nonneg_left hpow (by positivity)
        _ < 2 ^ (d.log2 + 1) * 2 ^ (3 * e) :=
            mul_lt_mul_of_pos_right (log2_bounds hd).2 (by positivity)
        _ = 2 ^ ((d.log2 + 1 : Nat) + 3 * e) := by rw [zpow_add₀ (by norm_num), zpow_natCast]
    have := (zpow_lt_zpow_iff_right₀ (by norm_num)).mp hlt
    omega

-- ======================================================== long numerals

/-- A long numeral is read by one exact operation that is then rounded. -/
theorem ofScientific_exact (hcanonical : Canonical m) (hpos : 0 < m.significand) (hd : 0 < d)
    (h : (Interval.ofMagnitude m).Holds (d * (10 : ℚ) ^ e)) :
    UnpackedFloat.ofScientific Format.binary64 d e
      = .finite .positive m.significand m.exponent hpos := by
  obtain ⟨hlarge, hsmall⟩ := scale_bounds hcanonical hpos hd h
  unfold UnpackedFloat.ofScientific
  rw [dif_neg (by omega), if_neg (show ¬e > 2 ^ 11 by omega),
    if_neg (show ¬e < -(2 ^ 11 + (d.log2 : ℤ)) by omega)]
  split
  · -- the digits are shifted first, so that the product has bits enough
    rename_i hnonneg
    obtain ⟨k, rfl⟩ := Int.eq_ofNat_of_zero_le hnonneg
    have hexact : (d * (10 : ℚ) ^ (k : ℤ))
        = (d <<< 53 : Nat) * 2 ^ (-53 : ℤ) * ((10 ^ k : Nat) * 2 ^ (0 : ℤ)) := by
      rw [Nat.shiftLeft_eq, zpow_natCast, zpow_zero]
      push_cast
      norm_num
      field_simp
    have hd' : 0 < d <<< 53 := by
      rw [Nat.shiftLeft_eq]
      positivity
    have hlong : 2 ^ 53 ≤ (d <<< 53) * 10 ^ k := by
      have hone : 1 ≤ d * 10 ^ k := Nat.mul_pos hd (by positivity)
      rw [Nat.shiftLeft_eq]
      calc 2 ^ 53 = 1 * 2 ^ 53 := (one_mul _).symm
        _ ≤ d * 10 ^ k * 2 ^ 53 := Nat.mul_le_mul_right _ hone
        _ = d * 2 ^ 53 * 10 ^ k := Nat.mul_right_comm ..
    have hbits : Format.binary64.mantissaBits = 53 := rfl
    rw [hexact] at h
    simp only [hbits, Int.toNat_natCast]
    exact mul_nearest .positive .positive hcanonical hpos hd' (Nat.pow_pos (by norm_num)) hlong h
  · rename_i hneg
    have hexact : (d * (10 : ℚ) ^ e)
        = d * 2 ^ (0 : ℤ) / ((10 ^ (-e).toNat : Nat) * 2 ^ (0 : ℤ)) := by
      obtain ⟨k, hk⟩ := Int.eq_ofNat_of_zero_le (show 0 ≤ -e by omega)
      have he : e = -(k : ℤ) := by omega
      rw [he, neg_neg, Int.toNat_natCast, zpow_neg, zpow_natCast, zpow_zero]
      push_cast
      rw [mul_one, mul_one, div_eq_mul_inv]
    rw [hexact] at h
    exact div_nearest .positive .positive hcanonical hpos hd (by positivity) h

/-- Digits and a scale are read as the double to which they round. -/
theorem ofScientific_nearest (hcanonical : Canonical m) (hpos : 0 < m.significand)
    (hdigits : 0 < numeral.digits) (h : (Interval.ofMagnitude m).Holds numeral.exact) :
    Float.ofScientific numeral.digits (numeral.scale < 0) numeral.scale.natAbs
      = packed .positive m := by
  by_cases hshort : numeral.digits < 2 ^ 53 ∧ numeral.scale.natAbs ≤ 22
  · exact ofScientific_of_short hcanonical hpos hdigits hshort.1 hshort.2 h
  · have hscale : (if (decide (numeral.scale < 0)) = true then Int.negOfNat numeral.scale.natAbs
        else Int.ofNat numeral.scale.natAbs) = numeral.scale := by
      simp only [decide_eq_true_iff, Int.negOfNat_eq, Int.ofNat_eq_natCast]
      split <;> omega
    unfold Float.ofScientific
    rw [dif_neg hshort, hscale]
    show Float.ofModel (Float.Model.pack
      (UnpackedFloat.ofScientific Format.binary64 numeral.digits numeral.scale)) = _
    rw [ofScientific_exact hcanonical hpos hdigits h, packed, unpacked_of_pos _ hpos]

/-- A numeral is read as the double to which it rounds. -/
theorem nearest_of_holds (hcanonical : Canonical m) (hpos : 0 < m.significand)
    (h : (Interval.ofMagnitude m).Holds numeral.exact) : numeral.nearest = packed .positive m := by
  have hdigits := digits_pos_of_exact (pos_of_holds hpos h)
  obtain ⟨hlow, hhigh⟩ := bounds_of_holds hcanonical hpos h
  obtain ⟨hlead, hlead'⟩ := leading_bounds hdigits
  have hlarge : ¬400 < numeral.leading := by
    intro hlarge
    have hlt := (two_pow_le_ten_pow (show 0 ≤ numeral.leading by omega)).trans_lt
      (hlead.trans_lt hhigh)
    have := (zpow_lt_zpow_iff_right₀ (by norm_num)).mp hlt
    omega
  have hsmall : ¬numeral.leading < -400 := by
    intro hsmall
    have hlt := (hlow.trans_lt hlead').trans_le
      (ten_pow_le_two_pow (show numeral.leading + 1 ≤ 0 by omega))
    have := (zpow_lt_zpow_iff_right₀ (by norm_num)).mp hlt
    omega
  unfold Numeral.nearest
  rw [if_neg (by omega), if_neg hlarge, if_neg hsmall]
  exact ofScientific_nearest hcanonical hpos hdigits h

-- ============================================================ read texts

/-- The reals that are read as a double: those that round to it, and itself. -/
def Magnitude.ReadFrom (m : Magnitude) (q : ℚ) : Prop :=
  q = m.exact ∨ 0 < m.significand ∧ (Interval.ofMagnitude m).Holds q

theorem Magnitude.ReadFrom.holds (h : m.ReadFrom q) (hpos : 0 < m.significand) :
    (Interval.ofMagnitude m).Holds q := by
  rcases h with rfl | ⟨-, h⟩
  · exact holds_exact hpos
  · exact h

theorem nearest_of_readFrom (hcanonical : Canonical m) (h : m.ReadFrom numeral.exact) :
    numeral.nearest = packed .positive m := by
  by_cases hpos : 0 < m.significand
  · exact nearest_of_holds hcanonical hpos (h.holds hpos)
  · obtain rfl := hcanonical.eq_zero (by omega)
    have hexact : numeral.exact = 0 := by
      rcases h with h | ⟨hpos', -⟩
      · simpa [Magnitude.exact] using h
      · exact absurd hpos' hpos
    have hdigits : numeral.digits = 0 := by
      have hten : ((10 : ℚ) ^ numeral.scale) ≠ 0 := zpow_ne_zero _ (by norm_num)
      unfold Numeral.exact at hexact
      exact_mod_cast (mul_eq_zero.mp hexact).resolve_right hten
    unfold Numeral.nearest
    rw [if_pos hdigits]
    rfl

variable {s : List Char} {negative : Bool}

/-- A decimal starts with a digit or a point. -/
theorem head_of_unsigned? (h : unsigned? s = some numeral) :
    ∃ c rest, s = c :: rest ∧ (isDigit c = true ∨ c = '.') := by
  cases s with
  | nil => cases h
  | cons c rest =>
      refine ⟨c, rest, rfl, ?_⟩
      by_contra hc
      obtain ⟨hdigit, hpoint⟩ := not_or.mp hc
      simp [unsigned?, hdigit, hpoint] at h

theorem toLower_of_isDigit {c : Char} (h : isDigit c = true) : c.toLower = c := by
  have hhigh := (toNat_of_isDigit h).2
  have hupper : ¬('A'.val ≤ c.val ∧ c.val ≤ 'Z'.val) := by
    rintro ⟨hlow, -⟩
    have hlow' : 65 ≤ c.toNat := hlow
    omega
  exact dif_neg hupper

/-- No special value is a decimal. -/
theorem special?_of_unsigned? (h : unsigned? s = some numeral) : special? s = none := by
  obtain ⟨c, rest, rfl, hc⟩ := head_of_unsigned? h
  have hlower : c.toLower ≠ 'n' ∧ c.toLower ≠ 'i' := by
    rcases hc with hdigit | rfl
    · rw [toLower_of_isDigit hdigit]
      constructor <;> rintro rfl <;> exact absurd hdigit (by decide)
    · decide
  simp [special?, hlower.1, hlower.2]

/-- A text is read as the double to which the number that it denotes
rounds. -/
theorem ofText?_of_denoted (hcanonical : Canonical m) (h : denoted? s = some (negative, q))
    (hq : m.ReadFrom q) : ∃ y, ofText? s = some y ∧ read y = .finite negative m := by
  obtain ⟨numeral, hunsigned, hnumeral⟩ : ∃ numeral, unsigned? (splitSign s).2 = some numeral ∧
      ((splitSign s).1, numeral.exact) = (negative, q) := Option.map_eq_some_iff.mp h
  obtain ⟨hnegative, rfl⟩ := Prod.mk.inj hnumeral
  have hnearest := nearest_of_readFrom hcanonical hq
  have hread := read_packed .positive hcanonical
  refine ⟨if negative then -packed .positive m else packed .positive m, ?_, ?_⟩
  · unfold ofText?
    dsimp only
    rw [special?_of_unsigned? hunsigned, hunsigned, hnegative]
    simp [hnearest]
  · cases negative with
    | true => exact read_neg hread
    | false => exact hread

/-- A finite number is read back from its own text. -/
theorem ofText?_text (h : read x = .finite negative m) : ofText? (text x).toList = some x := by
  obtain ⟨w, hchars, hnegative, hexact⟩ := exists_written_text h
  have hcanonical := canonical_of_read h
  have hreadFrom : m.ReadFrom w.numeral.exact := by
    rw [hexact]
    by_cases hpos : 0 < m.significand
    · exact Or.inr ⟨hpos, shortest_holds .upward hcanonical hpos⟩
    · obtain rfl := hcanonical.eq_zero (by omega)
      left
      simp [shortest, Numeral.exact, Magnitude.exact]
  obtain ⟨y, hy, hread⟩ := ofText?_of_denoted hcanonical (denoted?_chars w) hreadFrom
  rw [hnegative] at hread
  rw [hchars, hy, eq_of_read hread h]

end MessageCatalog.Decimal
