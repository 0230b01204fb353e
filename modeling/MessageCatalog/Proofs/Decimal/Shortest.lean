/-
The shortest numeral of a double.

All reals that round to a double form an interval around its value, and the
numeral that is written for it is a point of this interval on the coarsest
decimal grid that has one (`shortest_found`). Some grid among the seventeen
that are tried always has one, because at last the grid is finer than the
interval is wide (`exists_hit`), so what is written always rounds back to the
double (`shortest_holds`).

# Whole numbers

Where a double is whole, a grid of whole numbers has its value, so that the
numeral is whole too (`shortest_scale_nonneg`); and up to `2 ^ 53` the
interval has no other whole number, so that the digits are exact
(`shortest_whole`). Around a double that is not whole there is no whole
number at all, and its numeral has a fraction (`shortest_scale_neg`).
-/
import MessageCatalog.Proofs.Decimal.Binary
import MessageCatalog.Proofs.Decimal.Written

namespace MessageCatalog.Decimal

-- ============================================================== powers

/-- A power with an exponent of either sign, from two powers without. -/
theorem pow_toNat_div (b : ℚ) (k : ℤ) : b ^ k.toNat / b ^ (-k).toNat = b ^ k := by
  rcases Int.le_total 0 k with hk | hk
  · obtain ⟨n, rfl⟩ := Int.eq_ofNat_of_zero_le hk
    have hneg : (-(n : ℤ)).toNat = 0 := by omega
    rw [hneg, Int.toNat_natCast, pow_zero, div_one, zpow_natCast]
  · obtain ⟨n, hn⟩ := Int.eq_ofNat_of_zero_le (show 0 ≤ -k by omega)
    have hpos : k.toNat = 0 := by omega
    have hk' : k = -(n : ℤ) := by omega
    rw [hpos, hn, Int.toNat_natCast, pow_zero, one_div, hk', zpow_neg, zpow_natCast]

theorem cast_twoTo (n : Nat) : (twoTo n : ℚ) = 2 ^ n := by
  have htwo : twoTo n = 2 ^ n := rfl
  rw [htwo]
  push_cast
  rfl

theorem cast_tenTo (n : Nat) : (tenTo n : ℚ) = 10 ^ n := by
  have hten : tenTo n = 10 ^ n := rfl
  rw [hten]
  push_cast
  rfl

variable {m : Magnitude}

theorem exact_eq_div (m : Magnitude) : m.exact = m.num / m.den := by
  unfold Magnitude.exact Magnitude.num Magnitude.den
  rw [← pow_toNat_div 2 m.exponent]
  push_cast [cast_twoTo]
  ring

-- =========================================================== intervals

namespace Interval

/-- The real is a point of the interval. -/
def Holds (i : Interval) (q : ℚ) : Prop :=
  if i.closed then (i.low : ℚ) ≤ q * i.den ∧ q * i.den ≤ i.high
  else (i.low : ℚ) < q * i.den ∧ q * i.den < i.high

variable {i : Interval} {q : ℚ}

theorem Holds.le (h : i.Holds q) : (i.low : ℚ) ≤ q * i.den ∧ q * i.den ≤ i.high := by
  unfold Holds at h
  split at h
  · exact h
  · exact ⟨le_of_lt h.1, le_of_lt h.2⟩

theorem Holds.lt (h : i.Holds q) (hopen : i.closed = false) :
    (i.low : ℚ) < q * i.den ∧ q * i.den < i.high := by
  unfold Holds at h
  rwa [hopen, if_neg Bool.false_ne_true] at h

theorem holds_of_lt (hlow : (i.low : ℚ) < q * i.den) (hhigh : q * i.den < i.high) : i.Holds q := by
  unfold Holds
  split
  · exact ⟨le_of_lt hlow, le_of_lt hhigh⟩
  · exact ⟨hlow, hhigh⟩

/-- The interval has no gaps. -/
theorem Holds.between {a b : ℚ} (ha : i.Holds a) (hb : i.Holds b) (hlow : a ≤ q) (hhigh : q ≤ b) :
    i.Holds q := by
  have hlow' : a * i.den ≤ q * i.den := mul_le_mul_of_nonneg_right hlow (by positivity)
  have hhigh' : q * i.den ≤ b * i.den := mul_le_mul_of_nonneg_right hhigh (by positivity)
  unfold Holds at ha hb ⊢
  split
  · rename_i hclosed
    rw [if_pos hclosed] at ha hb
    exact ⟨ha.1.trans hlow', hhigh'.trans hb.2⟩
  · rename_i hopen
    rw [if_neg hopen] at ha hb
    exact ⟨ha.1.trans_le hlow', hhigh'.trans_lt hb.2⟩

theorem contains_iff (i : Interval) (c : Nat) : i.contains c = true ↔ i.Holds c := by
  unfold contains Holds
  split <;> simp only [decide_eq_true_eq] <;> norm_cast

/-- A whole number on a grid is in the interval over the grid exactly if its
real is in the interval. -/
theorem holds_onGrid (i : Interval) (scale : ℤ) (c : Nat) :
    (i.onGrid scale).Holds c ↔ i.Holds (c * (10 : ℚ) ^ scale) := by
  have hup : (0 : ℚ) < 10 ^ (-scale).toNat := by positivity
  have hgrid : (c : ℚ) * (i.den * 10 ^ scale.toNat)
      = c * (10 : ℚ) ^ scale * i.den * 10 ^ (-scale).toNat := by
    rw [← pow_toNat_div 10 scale]
    field_simp
  unfold Holds onGrid
  simp only
  push_cast [cast_tenTo]
  rw [hgrid]
  split
  · rw [mul_le_mul_iff_of_pos_right hup, mul_le_mul_iff_of_pos_right hup]
  · rw [mul_lt_mul_iff_of_pos_right hup, mul_lt_mul_iff_of_pos_right hup]

/-- A hit is one of the two neighbours of the value. -/
theorem neighbour_of_hit {tie : Tie} {c : Nat} (h : i.hit? tie = some c) :
    c = i.value / i.den ∨ c = i.value / i.den + 1 := by
  unfold hit? at h
  simp only at h
  split at h
  · cases h
  · cases h; exact Or.inl rfl
  · cases h; exact Or.inr rfl
  · split at h
    · cases h; exact Or.inl rfl
    · cases h; exact Or.inr rfl
    · cases tie with
      | upward => cases h; exact Or.inr rfl
      | even =>
          simp only at h
          split at h
          · cases h; exact Or.inl rfl
          · cases h; exact Or.inr rfl

/-- A hit is a whole number in the interval. -/
theorem holds_of_hit {tie : Tie} {c : Nat} (h : i.hit? tie = some c) : i.Holds c := by
  rw [← contains_iff]
  have hneighbour := neighbour_of_hit h
  unfold hit? at h
  simp only at h
  split at h
  · cases h
  · rename_i hc _
    cases h
    exact hc
  · rename_i _ hc
    cases h
    exact hc
  · rename_i hc hc'
    rcases hneighbour with rfl | rfl
    · exact hc
    · exact hc'

/-- Without a hit neither neighbour of the value is in the interval. -/
theorem not_holds_of_no_hit {tie : Tie} (h : i.hit? tie = none) :
    ¬i.Holds ((i.value / i.den : Nat) : ℚ) ∧ ¬i.Holds ((i.value / i.den + 1 : Nat) : ℚ) := by
  rw [← contains_iff, ← contains_iff]
  unfold hit? at h
  simp only at h
  split at h
  · rename_i hc hc'
    rw [hc, hc']
    exact ⟨Bool.false_ne_true, Bool.false_ne_true⟩
  · cases h
  · cases h
  · split at h
    · cases h
    · cases h
    · cases tie with
      | upward => cases h
      | even =>
          simp only at h
          split at h <;> cases h

/-- The exact value in the interval. -/
def exact (i : Interval) : ℚ := i.value / i.den

/-- The neighbours of the value on a grid are less than a step apart from
it. -/
theorem neighbours_onGrid (i : Interval) (hden : 0 < i.den) (scale : ℤ) :
    (((i.onGrid scale).value / (i.onGrid scale).den : Nat) : ℚ) * 10 ^ scale ≤ i.exact ∧
      i.exact < ((i.onGrid scale).value / (i.onGrid scale).den + 1 : Nat) * 10 ^ scale := by
  have hstep : (0 : ℚ) < 10 ^ scale := zpow_pos (by norm_num) scale
  have hden' : 0 < (i.onGrid scale).den := Nat.mul_pos hden (tenTo_pos _)
  have hexact : i.exact = ((i.onGrid scale).value / (i.onGrid scale).den : ℚ) * 10 ^ scale := by
    rw [← pow_toNat_div 10 scale]
    unfold exact onGrid
    push_cast [cast_tenTo]
    field_simp
  have hdenQ : (0 : ℚ) < (i.onGrid scale).den := by exact_mod_cast hden'
  rw [hexact, mul_le_mul_iff_of_pos_right hstep, mul_lt_mul_iff_of_pos_right hstep]
  refine ⟨Nat.cast_div_le, ?_⟩
  rw [div_lt_iff₀ hdenQ]
  exact_mod_cast Nat.lt_mul_of_div_lt (Nat.lt_succ_self _) hden'

end Interval

-- ============================================ the interval of a double

/-- The interval is measured in quarters of the unit of the last place. -/
def Magnitude.quarter (m : Magnitude) : ℚ := 2 ^ (m.exponent - 2)

theorem quarter_pos (m : Magnitude) : 0 < m.quarter := zpow_pos (by norm_num) _

theorem unit_eq_quarters (m : Magnitude) : (2 : ℚ) ^ m.exponent = 4 * m.quarter := by
  have hexponent : m.exponent = m.exponent - 2 + 2 := by omega
  unfold Magnitude.quarter
  rw [hexponent, zpow_add₀ (by norm_num)]
  ring_nf

theorem exact_eq_quarters (m : Magnitude) : m.exact = 4 * m.significand * m.quarter := by
  unfold Magnitude.exact
  rw [unit_eq_quarters]
  ring

/-- The bounds of the interval as multiples of a quarter. -/
theorem quarters_of_bound (m : Magnitude) (n : Nat) :
    ((n * twoTo (m.exponent - 2).toNat : Nat) : ℚ)
      = n * m.quarter * twoTo (2 - m.exponent).toNat := by
  have hneg : 2 - m.exponent = -(m.exponent - 2) := by omega
  unfold Magnitude.quarter
  rw [hneg, ← pow_toNat_div 2 (m.exponent - 2)]
  push_cast [cast_twoTo]
  field_simp

theorem exact_ofMagnitude (m : Magnitude) : (Interval.ofMagnitude m).exact = m.exact := by
  have hden : (0 : ℚ) < twoTo (2 - m.exponent).toNat := by exact_mod_cast twoTo_pos _
  unfold Interval.exact Interval.ofMagnitude
  simp only
  rw [quarters_of_bound, exact_eq_quarters, mul_div_assoc, div_self (ne_of_gt hden)]
  push_cast
  ring

/-- The gap below the value, in quarters. -/
def Magnitude.below (m : Magnitude) : Nat :=
  if m.significand = 2 ^ 52 ∧ m.exponent ≠ -1074 then 1 else 2

theorem below_le (m : Magnitude) : 1 ≤ m.below ∧ m.below ≤ 2 := by
  unfold Magnitude.below
  split <;> decide

theorem le_of_holds (h : (Interval.ofMagnitude m).Holds q) :
    (4 * m.significand - m.below : Nat) * m.quarter ≤ q ∧
      q ≤ (4 * m.significand + 2 : Nat) * m.quarter := by
  have hden : (0 : ℚ) < twoTo (2 - m.exponent).toNat := by exact_mod_cast twoTo_pos _
  obtain ⟨hlow, hhigh⟩ := h.le
  unfold Interval.ofMagnitude at hlow hhigh
  simp only [quarters_of_bound] at hlow hhigh
  exact ⟨le_of_mul_le_mul_right hlow hden, le_of_mul_le_mul_right hhigh hden⟩

/-- An interval around an odd significand is open. -/
theorem lt_of_holds (hodd : m.significand % 2 = 1) (h : (Interval.ofMagnitude m).Holds q) :
    (4 * m.significand - m.below : Nat) * m.quarter < q ∧
      q < (4 * m.significand + 2 : Nat) * m.quarter := by
  have hden : (0 : ℚ) < twoTo (2 - m.exponent).toNat := by exact_mod_cast twoTo_pos _
  have hopen : (Interval.ofMagnitude m).closed = false := by
    unfold Interval.ofMagnitude
    simp [hodd]
  obtain ⟨hlow, hhigh⟩ := h.lt hopen
  unfold Interval.ofMagnitude at hlow hhigh
  simp only [quarters_of_bound] at hlow hhigh
  exact ⟨lt_of_mul_lt_mul_right hlow (le_of_lt hden), lt_of_mul_lt_mul_right hhigh (le_of_lt hden)⟩

theorem holds_of_between (hlow : (4 * m.significand - m.below : Nat) * m.quarter < q)
    (hhigh : q < (4 * m.significand + 2 : Nat) * m.quarter) :
    (Interval.ofMagnitude m).Holds q := by
  have hden : (0 : ℚ) < twoTo (2 - m.exponent).toNat := by exact_mod_cast twoTo_pos _
  apply Interval.holds_of_lt
  · unfold Interval.ofMagnitude
    simp only [quarters_of_bound]
    exact mul_lt_mul_of_pos_right hlow hden
  · unfold Interval.ofMagnitude
    simp only [quarters_of_bound]
    exact mul_lt_mul_of_pos_right hhigh hden

variable {n : Nat}

/-- Where the unit of the last place is at most one, a whole number in the
interval is a whole number of units, and less than one unit off. -/
theorem eq_exact_of_holds (hexponent : m.exponent ≤ 0)
    (h : (Interval.ofMagnitude m).Holds n) : (n : ℚ) = m.exact := by
  have hquarter := quarter_pos m
  obtain ⟨hlow, hhigh⟩ := le_of_holds h
  obtain ⟨k, hk⟩ := Int.eq_ofNat_of_zero_le (show 0 ≤ -m.exponent by omega)
  have hn : (n : ℚ) = ((n * 2 ^ k * 4 : Nat) : ℚ) * m.quarter := by
    have hexponent' : m.exponent - 2 = -((k + 2 : Nat) : ℤ) := by omega
    unfold Magnitude.quarter
    rw [hexponent', zpow_neg, zpow_natCast]
    push_cast
    field_simp
    ring
  rw [hn] at hlow hhigh ⊢
  have hlow' : 4 * m.significand - m.below ≤ n * 2 ^ k * 4 := by
    exact_mod_cast le_of_mul_le_mul_right hlow hquarter
  have hhigh' : n * 2 ^ k * 4 ≤ 4 * m.significand + 2 := by
    exact_mod_cast le_of_mul_le_mul_right hhigh hquarter
  have hunits : n * 2 ^ k = m.significand := by
    have := below_le m
    omega
  rw [hunits, exact_eq_quarters]
  push_cast
  ring

/-- Whole doubles beyond those with a unit of at most one are so great
that nothing in their interval is small. -/
theorem le_of_holds_of_pos (hcanonical : Canonical m) (hexponent : 0 < m.exponent)
    (h : (Interval.ofMagnitude m).Holds n) : 2 ^ 53 ≤ n := by
  obtain ⟨hlow, -⟩ := le_of_holds h
  have hsignificand : 2 ^ 52 ≤ m.significand := by
    rcases hcanonical.normal with hnormal | hleast
    · exact hnormal
    · omega
  have hquarter : (1 : ℚ) / 2 ≤ m.quarter := by
    have hpow : (2 : ℚ) ^ (-1 : ℤ) ≤ 2 ^ (m.exponent - 2) :=
      zpow_le_zpow_right₀ (by norm_num) (by omega)
    rw [zpow_neg_one, ← one_div] at hpow
    exact hpow
  have hquarters : 2 ^ 54 - 1 ≤ 4 * m.significand - m.below := by
    by_cases hleast : m.significand = 2 ^ 52
    · have hbelow : m.below = 1 := by
        unfold Magnitude.below
        rw [if_pos ⟨hleast, by omega⟩]
      omega
    · have := below_le m
      omega
  have hquarters' : ((2 ^ 54 - 1 : Nat) : ℚ) ≤ (4 * m.significand - m.below : Nat) := by
    exact_mod_cast hquarters
  have hlow' : ((2 ^ 54 - 1 : Nat) : ℚ) * (1 / 2) ≤ n :=
    (mul_le_mul hquarters' hquarter (by norm_num) (by positivity)).trans hlow
  have hdouble : ((2 ^ 54 - 1 : Nat) : ℚ) ≤ ((2 * n : Nat) : ℚ) := by
    push_cast at hlow' ⊢
    linarith
  have hdouble' : 2 ^ 54 - 1 ≤ 2 * n := by exact_mod_cast hdouble
  omega

-- ======================================================= leading digit

/-- A positive number is between the powers of ten of its digit count. -/
theorem digitCount_bounds (hn : 0 < n) :
    10 ^ (digitCount n - 1) ≤ n ∧ n < 10 ^ digitCount n ∧ 0 < digitCount n := by
  have hcount : 0 < digitCount n := Nat.length_toDigits_pos
  refine ⟨?_, ?_, hcount⟩
  · by_contra hlt
    by_cases hone : digitCount n = 1
    · rw [hone] at hlt
      omega
    · have hle : digitCount n ≤ digitCount n - 1 :=
        (Nat.length_toDigits_le_iff (by decide) (by omega)).mpr (by omega)
      omega
  · exact (Nat.length_toDigits_le_iff (by decide) hcount).mp (le_refl _)

variable {numeral : Numeral}

theorem digits_pos_of_exact (h : 0 < numeral.exact) : 0 < numeral.digits := by
  by_contra hzero
  unfold Numeral.exact at h
  rw [Nat.eq_zero_of_not_pos hzero, Nat.cast_zero, zero_mul] at h
  exact lt_irrefl _ h

/-- The digits stand where the leading one is said to stand. -/
theorem leading_bounds (hdigits : 0 < numeral.digits) :
    (10 : ℚ) ^ numeral.leading ≤ numeral.exact ∧ numeral.exact < 10 ^ (numeral.leading + 1) := by
  obtain ⟨hlow, hhigh, hcount⟩ := digitCount_bounds hdigits
  have hlow' : (10 : ℚ) ^ (digitCount numeral.digits - 1) ≤ numeral.digits := by exact_mod_cast hlow
  have hhigh' : (numeral.digits : ℚ) < 10 ^ digitCount numeral.digits := by exact_mod_cast hhigh
  have hleading : numeral.leading = (digitCount numeral.digits - 1 : Nat) + numeral.scale := by
    unfold Numeral.leading
    omega
  have hnext : numeral.leading + 1 = (digitCount numeral.digits : Nat) + numeral.scale := by omega
  rw [hnext, hleading, zpow_add₀ (by norm_num), zpow_add₀ (by norm_num), zpow_natCast, zpow_natCast]
  exact ⟨mul_le_mul_of_nonneg_right hlow' (by positivity),
    mul_lt_mul_of_pos_right hhigh' (by positivity)⟩

theorem exact_pos (hpos : 0 < m.significand) : 0 < m.exact := by
  have hsignificand : (0 : ℚ) < m.significand := by exact_mod_cast hpos
  exact mul_pos hsignificand (zpow_pos (by norm_num) _)

/-- The least positive double is above the power of ten from which digits
are counted. -/
theorem one_le_scaled (hcanonical : Canonical m) (hpos : 0 < m.significand) :
    1 ≤ m.exact * 10 ^ 330 := by
  have hsignificand : (1 : ℚ) ≤ m.significand := by exact_mod_cast hpos
  have hpow : (2 : ℚ) ^ (-1074 : ℤ) ≤ 2 ^ m.exponent :=
    zpow_le_zpow_right₀ (by norm_num) hcanonical.exponent_ge
  have hleast : (1 : ℚ) ≤ 2 ^ (-1074 : ℤ) * 10 ^ 330 := by
    have hnat : 2 ^ 1074 ≤ 10 ^ 330 := by decide +kernel
    have hcast : (2 : ℚ) ^ 1074 ≤ 10 ^ 330 := by exact_mod_cast hnat
    rw [zpow_neg, inv_mul_eq_div, one_le_div (by positivity)]
    exact hcast
  calc (1 : ℚ) ≤ 2 ^ (-1074 : ℤ) * 10 ^ 330 := hleast
    _ ≤ 2 ^ m.exponent * 10 ^ 330 := by gcongr
    _ = 1 * 2 ^ m.exponent * 10 ^ 330 := by rw [one_mul]
    _ ≤ m.exact * 10 ^ 330 := by unfold Magnitude.exact; gcongr

theorem zpow_scaled {scale : ℤ} {d : Nat} (h : scale + 330 = d) :
    (10 : ℚ) ^ scale * 10 ^ 330 = (10 ^ d : Nat) := by
  have hscale : scale = (d : ℤ) - (330 : Nat) := by omega
  rw [hscale, zpow_sub₀ (by norm_num), zpow_natCast, zpow_natCast,
    div_mul_cancel₀ _ (by positivity)]
  exact (Nat.cast_pow 10 d).symm

/-- The leading digit stands where the scales of the grids are counted
from. -/
theorem leadingScale_bounds (hcanonical : Canonical m) (hpos : 0 < m.significand) :
    (10 : ℚ) ^ leadingScale m ≤ m.exact ∧ m.exact < 10 ^ (leadingScale m + 1) := by
  have hdenNat := m.den_pos
  have hden : (0 : ℚ) < m.den := by exact_mod_cast hdenNat
  have hscaled : m.exact * 10 ^ 330 = ((m.num * tenTo 330 : Nat) : ℚ) / m.den := by
    rw [exact_eq_div, Nat.cast_mul, cast_tenTo, div_mul_eq_mul_div]
  have hone := one_le_scaled hcanonical hpos
  rw [hscaled, le_div_iff₀ hden, one_mul] at hone
  have hN : 0 < m.num * tenTo 330 / m.den := Nat.div_pos (by exact_mod_cast hone) hdenNat
  obtain ⟨hlow, hhigh, hcount⟩ := digitCount_bounds hN
  have hscale : leadingScale m = (digitCount (m.num * tenTo 330 / m.den) : ℤ) - 331 := rfl
  generalize digitCount (m.num * tenTo 330 / m.den) = d at hlow hhigh hcount hscale
  have htenpos : (0 : ℚ) < 10 ^ 330 := by positivity
  constructor
  · have hle : ((10 ^ (d - 1) : Nat) : ℚ) ≤ m.exact * 10 ^ 330 := by
      rw [hscaled, le_div_iff₀ hden]
      exact_mod_cast (Nat.le_div_iff_mul_le hdenNat).mp hlow
    rw [← zpow_scaled (show leadingScale m + 330 = (d - 1 : Nat) by omega)] at hle
    exact le_of_mul_le_mul_right hle htenpos
  · have hlt : m.exact * 10 ^ 330 < ((10 ^ d : Nat) : ℚ) := by
      rw [hscaled, div_lt_iff₀ hden]
      exact_mod_cast (Nat.div_lt_iff_lt_mul hdenNat).mp hhigh
    rw [← zpow_scaled (show leadingScale m + 1 + 330 = d by omega)] at hlt
    exact lt_of_mul_lt_mul_right hlt (le_of_lt htenpos)

-- ============================================================== grids

/-- What the grid of a digit behind the leading one has of the interval. -/
def hitAt (tie : Tie) (m : Magnitude) (n : Nat) : Option Numeral :=
  ((Interval.ofMagnitude m).onGrid (leadingScale m - n)).hit? tie |>.map (⟨·, leadingScale m - n⟩)

theorem shortest_eq (tie : Tie) (hpos : 0 < m.significand) :
    shortest tie m
      = (((List.range 17).findSome? (hitAt tie m)).getD ⟨m.num / m.den, 0⟩).strip 20 := by
  unfold shortest
  rw [if_neg (by omega)]
  rfl

variable {tie : Tie}

/-- A numeral that a grid has is in the interval. -/
theorem holds_of_hitAt (h : hitAt tie m n = some numeral) :
    (Interval.ofMagnitude m).Holds numeral.exact ∧ numeral.scale = leadingScale m - n := by
  obtain ⟨c, hc, rfl⟩ := Option.map_eq_some_iff.mp h
  exact ⟨(Interval.holds_onGrid _ _ c).mp (Interval.holds_of_hit hc), rfl⟩

/-- A grid without a numeral has neither neighbour of the value in the
interval. -/
theorem neighbours_of_hitAt_none (h : hitAt tie m n = none) : ∃ c : Nat,
    c * (10 : ℚ) ^ (leadingScale m - n) ≤ m.exact ∧
    m.exact < (c + 1 : Nat) * (10 : ℚ) ^ (leadingScale m - n) ∧
    ¬(Interval.ofMagnitude m).Holds (c * (10 : ℚ) ^ (leadingScale m - n)) ∧
    ¬(Interval.ofMagnitude m).Holds ((c + 1 : Nat) * (10 : ℚ) ^ (leadingScale m - n)) := by
  have hmiss := Interval.not_holds_of_no_hit (Option.map_eq_none_iff.mp h)
  have hbounds := (Interval.ofMagnitude m).neighbours_onGrid (twoTo_pos _) (leadingScale m - n)
  rw [exact_ofMagnitude] at hbounds
  rw [Interval.holds_onGrid, Interval.holds_onGrid] at hmiss
  exact ⟨_, hbounds.1, hbounds.2, hmiss.1, hmiss.2⟩

/-- A grid that is not as coarse as the interval is wide has a numeral: if
neither neighbour of the value were in the interval, they would be further
apart than its ends. -/
theorem exists_hit_of_fine (hpos : 0 < m.significand)
    (hfine : (10 : ℚ) ^ (leadingScale m - n) < (m.below + 2) * m.quarter) :
    ∃ numeral, hitAt tie m n = some numeral := by
  by_contra hnone
  obtain ⟨c, hle, hlt, hc, hc'⟩ := neighbours_of_hitAt_none
    (Option.eq_none_iff_forall_ne_some.mpr fun numeral h => hnone ⟨numeral, h⟩)
  have hquarter := quarter_pos m
  have hbelow := below_le m
  have hexact := exact_eq_quarters m
  have hlow : ((4 * m.significand - m.below : Nat) : ℚ) = 4 * m.significand - m.below := by
    rw [Nat.cast_sub (by omega)]
    push_cast
    rfl
  have hbelowQ : (0 : ℚ) < m.below := by exact_mod_cast hbelow.1
  have hleft : c * (10 : ℚ) ^ (leadingScale m - n) ≤ m.exact - m.below * m.quarter := by
    by_contra hnear
    apply hc
    refine holds_of_between ?_ ?_
    · rw [hlow]
      nlinarith
    · push_cast
      nlinarith
  have hright : m.exact + 2 * m.quarter ≤ (c + 1 : Nat) * (10 : ℚ) ^ (leadingScale m - n) := by
    by_contra hnear
    apply hc'
    refine holds_of_between ?_ ?_
    · rw [hlow]
      nlinarith
    · push_cast at hnear ⊢
      nlinarith
  push_cast at hright
  linarith

/-- Some grid that is tried has a numeral: the last one is finer than the
interval is wide. -/
theorem exists_hit (tie : Tie) (hcanonical : Canonical m) (hpos : 0 < m.significand) :
    ∃ numeral, hitAt tie m 16 = some numeral := by
  apply exists_hit_of_fine hpos
  have hquarter := quarter_pos m
  have hlead := (leadingScale_bounds hcanonical hpos).1
  have hstep : (10 : ℚ) ^ (leadingScale m - (16 : Nat)) * 10 ^ 16 = 10 ^ leadingScale m := by
    rw [zpow_sub₀ (by norm_num), zpow_natCast, div_mul_cancel₀ _ (by norm_num)]
  have hwide : 4 * (m.significand : ℚ) < (m.below + 2) * 10 ^ 16 := by
    have hnat : 4 * m.significand < (m.below + 2) * 10 ^ 16 := by
      have hlt := hcanonical.significand_lt
      unfold Magnitude.below
      split <;> omega
    exact_mod_cast hnat
  rw [exact_eq_quarters] at hlead
  nlinarith

/-- The first item of a range for which something is found. -/
theorem findSome?_range {α : Type} {f : Nat → Option α} {len : Nat} {a : α}
    (h : (List.range len).findSome? f = some a) :
    ∃ n < len, f n = some a ∧ ∀ k < n, f k = none := by
  obtain ⟨before, n, after, hrange, hn, hnone⟩ := List.findSome?_eq_some_iff.mp h
  rw [List.range_eq_range', List.range'_eq_append_iff] at hrange
  obtain ⟨count, hcount, hbefore, hafter⟩ := hrange
  obtain ⟨hfirst, hlen, -⟩ := List.range'_eq_cons_iff.mp hafter.symm
  refine ⟨n, by omega, hn, fun k hk => hnone k ?_⟩
  rw [hbefore, List.mem_range'_1]
  omega

theorem strip_exact (fuel : Nat) (numeral : Numeral) :
    (numeral.strip fuel).exact = numeral.exact ∧ numeral.scale ≤ (numeral.strip fuel).scale := by
  induction fuel generalizing numeral with
  | zero => exact ⟨rfl, le_refl _⟩
  | succ fuel ih =>
      rw [Numeral.strip]
      split
      · rename_i hzero
        obtain ⟨hexact, hscale⟩ := ih ⟨numeral.digits / 10, numeral.scale + 1⟩
        refine ⟨hexact.trans ?_, by simp only at hscale; omega⟩
        have hdigits : (numeral.digits : ℚ) = (numeral.digits / 10 : Nat) * 10 := by
          exact_mod_cast (Nat.div_mul_cancel (Nat.dvd_of_mod_eq_zero hzero.1)).symm
        unfold Numeral.exact
        simp only
        rw [hdigits, zpow_add_one₀ (by norm_num)]
        ring
      · exact ⟨rfl, le_refl _⟩

/-- The shortest numeral is the one of the first grid that has one, without
its trailing zeros. -/
theorem shortest_found (tie : Tie) (hcanonical : Canonical m) (hpos : 0 < m.significand) :
    ∃ n ≤ 16, ∃ found, hitAt tie m n = some found ∧ (∀ k < n, hitAt tie m k = none) ∧
      shortest tie m = found.strip 20 := by
  obtain ⟨last, hlast⟩ := exists_hit tie hcanonical hpos
  have hsome : ((List.range 17).findSome? (hitAt tie m)).isSome := by
    rw [List.isSome_findSome?, List.any_eq_true]
    exact ⟨16, List.mem_range.mpr (by decide), by rw [hlast]; rfl⟩
  obtain ⟨found, hfound⟩ := Option.isSome_iff_exists.mp hsome
  obtain ⟨n, hn, hhit, hnone⟩ := findSome?_range hfound
  refine ⟨n, by omega, found, hhit, hnone, ?_⟩
  rw [shortest_eq tie hpos, hfound]
  rfl

/-- What is written rounds back to the double. -/
theorem shortest_holds (tie : Tie) (hcanonical : Canonical m) (hpos : 0 < m.significand) :
    (Interval.ofMagnitude m).Holds (shortest tie m).exact := by
  obtain ⟨n, -, found, hhit, -, heq⟩ := shortest_found tie hcanonical hpos
  rw [heq, (strip_exact 20 found).1]
  exact (holds_of_hitAt hhit).1

-- ======================================================= whole numbers

theorem isWhole_iff_dvd (m : Magnitude) : m.isWhole = true ↔ m.den ∣ m.num := by
  unfold Magnitude.isWhole
  rw [beq_iff_eq, Nat.dvd_iff_mod_eq_zero]

theorem exact_eq_iff (m : Magnitude) (n : Nat) : (n : ℚ) = m.exact ↔ n * m.den = m.num := by
  have hden : (m.den : ℚ) ≠ 0 := by exact_mod_cast ne_of_gt m.den_pos
  rw [exact_eq_div, eq_div_iff hden]
  exact_mod_cast Iff.rfl

theorem floor_eq_exact (h : m.isWhole = true) : (m.floor : ℚ) = m.exact :=
  (exact_eq_iff m m.floor).mpr (Nat.div_mul_cancel ((isWhole_iff_dvd m).mp h))

theorem isWhole_of_exact (h : (n : ℚ) = m.exact) : m.isWhole = true :=
  (isWhole_iff_dvd m).mpr ⟨n, by rw [Nat.mul_comm, (exact_eq_iff m n).mp h]⟩

theorem isWhole_of_nonneg (h : 0 ≤ m.exponent) : m.isWhole = true := by
  obtain ⟨k, hk⟩ := Int.eq_ofNat_of_zero_le h
  apply isWhole_of_exact (n := m.significand * 2 ^ k)
  unfold Magnitude.exact
  rw [hk, zpow_natCast]
  push_cast
  rfl

theorem exact_of_nonneg (h : 0 ≤ numeral.scale) :
    ((numeral.digits * 10 ^ numeral.scale.toNat : Nat) : ℚ) = numeral.exact := by
  obtain ⟨k, hk⟩ := Int.eq_ofNat_of_zero_le h
  unfold Numeral.exact
  rw [hk, zpow_natCast, Int.toNat_natCast]
  push_cast
  rfl

/-- The value itself is in its interval. -/
theorem holds_exact (hpos : 0 < m.significand) : (Interval.ofMagnitude m).Holds m.exact := by
  have hquarter := quarter_pos m
  have hbelow := below_le m
  have hlow : 4 * m.significand - m.below < 4 * m.significand := by omega
  have hhigh : 4 * m.significand < 4 * m.significand + 2 := by omega
  have hexact : m.exact = (4 * m.significand : Nat) * m.quarter := by
    rw [exact_eq_quarters]
    push_cast
    rfl
  rw [hexact]
  exact holds_of_between (mul_lt_mul_of_pos_right (by exact_mod_cast hlow) hquarter)
    (mul_lt_mul_of_pos_right (by exact_mod_cast hhigh) hquarter)

/-- A whole double is written without a fraction: if no grid with a coarser
step has a numeral, the grid of the whole numbers has its value. -/
theorem shortest_scale_nonneg (tie : Tie) (hcanonical : Canonical m) (hpos : 0 < m.significand)
    (hwhole : m.isWhole = true) : 0 ≤ (shortest tie m).scale := by
  obtain ⟨n, -, found, hhit, hnone, heq⟩ := shortest_found tie hcanonical hpos
  have hfloor := floor_eq_exact hwhole
  have hone : (1 : ℚ) ≤ m.exact := by
    have hexact := exact_pos hpos
    rw [← hfloor] at hexact ⊢
    exact_mod_cast hexact
  have hlead : 0 ≤ leadingScale m := by
    have hhigh := (leadingScale_bounds hcanonical hpos).2
    by_contra hneg
    have hle : (10 : ℚ) ^ (leadingScale m + 1) ≤ 10 ^ (0 : ℤ) :=
      zpow_le_zpow_right₀ (by norm_num) (by omega)
    rw [zpow_zero] at hle
    linarith
  have hscale := (holds_of_hitAt hhit).2
  have hstrip := (strip_exact 20 found).2
  rw [heq]
  refine le_trans ?_ hstrip
  rw [hscale]
  by_contra hfine
  -- the grid of the whole numbers was tried before
  obtain ⟨k, hk⟩ := Int.eq_ofNat_of_zero_le hlead
  obtain ⟨c, hle, hlt, hc, -⟩ := neighbours_of_hitAt_none (hnone k (by omega))
  have hstep : leadingScale m - (k : Nat) = 0 := by omega
  rw [hstep, zpow_zero, mul_one] at hle hlt hc
  rw [← hfloor] at hle hlt
  have hcfloor : c = m.floor := by
    have hle' : c ≤ m.floor := by exact_mod_cast hle
    have hlt' : m.floor < c + 1 := by exact_mod_cast hlt
    omega
  rw [hcfloor, hfloor] at hc
  exact hc (holds_exact hpos)

/-- Up to `2 ^ 53` a whole double is written exactly, and what is written
for a greater one is not less than that. -/
theorem shortest_whole (tie : Tie) (hcanonical : Canonical m) (hpos : 0 < m.significand)
    (hwhole : m.isWhole = true) :
    (m.floor < 2 ^ 53 → (shortest tie m).exact = m.exact) ∧
      (2 ^ 53 ≤ m.floor → (2 : ℚ) ^ 53 ≤ (shortest tie m).exact) := by
  have hscale := shortest_scale_nonneg tie hcanonical hpos hwhole
  have hholds := shortest_holds tie hcanonical hpos
  rw [← exact_of_nonneg hscale] at hholds ⊢
  generalize (shortest tie m).digits * 10 ^ (shortest tie m).scale.toNat = v at hholds ⊢
  have hfloor := floor_eq_exact hwhole
  by_cases hexponent : m.exponent ≤ 0
  · have hv := eq_exact_of_holds hexponent hholds
    refine ⟨fun _ => hv, fun hgreat => ?_⟩
    rw [hv, ← hfloor]
    exact_mod_cast hgreat
  · have hv := le_of_holds_of_pos hcanonical (by omega) hholds
    have hfloor' := le_of_holds_of_pos hcanonical (by omega) (hfloor ▸ holds_exact hpos)
    exact ⟨fun hsmall => absurd hsmall (by omega), fun _ => by exact_mod_cast hv⟩

/-- A double that is not whole is written with a fraction: there is no whole
number around it. -/
theorem shortest_scale_neg (tie : Tie) (hcanonical : Canonical m) (hpos : 0 < m.significand)
    (hwhole : m.isWhole = false) : (shortest tie m).scale < 0 := by
  by_contra hscale
  have hexponent : ¬0 ≤ m.exponent := fun h => by
    rw [isWhole_of_nonneg h] at hwhole
    cases hwhole
  have hholds := shortest_holds tie hcanonical hpos
  rw [← exact_of_nonneg (by omega)] at hholds
  rw [isWhole_of_exact (eq_exact_of_holds (by omega) hholds)] at hwhole
  cases hwhole

end MessageCatalog.Decimal
