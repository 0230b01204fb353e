/-
What arithmetic does with reals that round to a double.

Products and quotients of doubles are first taken exactly, as a mantissa
with the knowledge of what is missing from it (`Stands`), and then rounded.
The reals that round to a double are known from how doubles are written: they
are its interval (`Interval.Holds`). Both are the same: whatever is computed
for a real of the interval is the double (`round_nearest`), so products and
quotients that lie in it are the double (`mul_nearest`, `div_nearest`).

# Shifts

Rounding shifts the mantissa until it has as many bits as a double. Right
below a power of two the doubles are closer, so a real there keeps one bit
more than the double that it rounds to; the rounding carries, and a second
shift takes the bit away (`shift_amount`, `shift_carry`).
-/
import MessageCatalog.Proofs.Decimal.Shortest

namespace MessageCatalog.Decimal

open Float.Model Float.Model.UnpackedFloat

-- ==================================================== extended mantissas

/-- The real that a mantissa with its two further bits stands for: the bits
say whether it is the mantissa itself, half way to the next one, or on one
side of the middle. -/
def Stands : ExtendedMantissa → ℚ → Prop
  | ⟨n, false, false⟩, a => a = n
  | ⟨n, false, true⟩, a => n < a ∧ a < n + 1 / 2
  | ⟨n, true, false⟩, a => a = n + 1 / 2
  | ⟨n, true, true⟩, a => n + 1 / 2 < a ∧ a < n + 1

variable {em : ExtendedMantissa} {a q : ℚ} {n : Nat}

theorem Stands.bounds (h : Stands em a) : (em.mantissa : ℚ) ≤ a ∧ a < em.mantissa + 1 := by
  obtain ⟨n, round, sticky⟩ := em
  cases round <;> cases sticky <;> simp only [Stands] at h ⊢ <;>
    constructor <;> linarith

/-- A shift halves the real. -/
theorem Stands.shiftRightOne (h : Stands em a) : Stands em.shiftRightOne (a / 2) := by
  obtain ⟨n, round, sticky⟩ := em
  obtain ⟨k, hk | hk⟩ := Nat.even_or_odd' n
  · have hhalf : n / 2 = k := by omega
    have hbit : (n % 2 != 0) = false := by
      rw [bne_eq_false_iff_eq]
      omega
    have hn : (n : ℚ) = 2 * k := by exact_mod_cast hk
    unfold ExtendedMantissa.shiftRightOne
    simp only [hhalf, hbit]
    cases round <;> cases sticky <;> simp only [Stands, hn, Bool.or_true, Bool.or_false] at h ⊢ <;>
      first | linarith | (constructor <;> linarith)
  · have hhalf : n / 2 = k := by omega
    have hbit : (n % 2 != 0) = true := by
      rw [bne_iff_ne]
      omega
    have hn : (n : ℚ) = 2 * k + 1 := by exact_mod_cast hk
    unfold ExtendedMantissa.shiftRightOne
    simp only [hhalf, hbit]
    cases round <;> cases sticky <;> simp only [Stands, hn, Bool.or_true, Bool.or_false] at h ⊢ <;>
      first | linarith | (constructor <;> linarith)

theorem Stands.shiftRight (h : Stands em a) (k : Nat) : Stands (em >>> k) (a / 2 ^ k) := by
  induction k with
  | zero =>
      rw [pow_zero, div_one]
      exact h
  | succ k ih =>
      have hstep : em >>> (k + 1) = (em >>> k).shiftRightOne := rfl
      rw [hstep, pow_succ, ← div_div]
      exact ih.shiftRightOne

/-- Rounding gives the nearest whole number, and of two the even one. -/
theorem Stands.rounded (h : Stands em a) (hlow : (n : ℚ) - 1 / 2 ≤ a) (hhigh : a ≤ n + 1 / 2)
    (htie : n % 2 = 1 → (n : ℚ) - 1 / 2 < a ∧ a < n + 1 / 2) : em.roundedMantissa = n := by
  obtain ⟨k, round, sticky⟩ := em
  cases round <;> cases sticky <;> simp only [Stands] at h <;>
    simp only [ExtendedMantissa.roundedMantissa, ExtendedMantissa.accuracy,
      Accuracy.roundToNearestEven]
  · have h₁ : (n : ℚ) < k + 1 := by linarith
    have h₂ : (k : ℚ) < n + 1 := by linarith
    norm_cast at h₁ h₂
    omega
  · have h₁ : (n : ℚ) < k + 1 := by linarith
    have h₂ : (k : ℚ) < n + 1 := by linarith
    norm_cast at h₁ h₂
    omega
  · have h₁ : (n : ℚ) < k + 2 := by linarith
    have h₂ : (k : ℚ) < n + 1 := by linarith
    norm_cast at h₁ h₂
    by_cases hodd : n % 2 = 1
    · obtain ⟨hlow', hhigh'⟩ := htie hodd
      have h₁' : (n : ℚ) < k + 1 := by linarith
      have h₂' : (k : ℚ) < n := by linarith
      norm_cast at h₁' h₂'
      omega
    · omega
  · have h₁ : (n : ℚ) < k + 2 := by linarith
    have h₂ : (k : ℚ) < n := by linarith
    norm_cast at h₁ h₂
    omega

/-- A quotient with its remainder stands for the fraction. -/
theorem stands_quotient (k : Nat) {d : Nat} (hd : 0 < d) :
    Stands (.ofMantissaAndAccuracy (k / d) (accuracyOfFraction (k % d) d)) (k / d : ℚ) := by
  have hdQ : (0 : ℚ) < d := by exact_mod_cast hd
  have hk : (k : ℚ) = d * (k / d : Nat) + (k % d : Nat) := by
    exact_mod_cast (Nat.div_add_mod k d).symm
  have hfraction : (k / d : ℚ) = (k / d : Nat) + (k % d : Nat) / (d : ℚ) := by
    rw [div_eq_iff (ne_of_gt hdQ), add_mul, div_mul_cancel₀ _ (ne_of_gt hdQ), mul_comm, ← hk]
  have hlt : ((k % d : Nat) : ℚ) / d < 1 := by
    rw [div_lt_one hdQ]
    exact_mod_cast Nat.mod_lt k hd
  rw [hfraction]
  generalize k / d = j
  generalize k % d = r at hlt
  unfold accuracyOfFraction
  split
  · rename_i hzero
    rw [hzero, Nat.cast_zero, zero_div, add_zero]
    rfl
  · rename_i hne
    have hpos : (0 : ℚ) < r / d := by
      have : (0 : ℚ) < r := by exact_mod_cast Nat.pos_of_ne_zero hne
      exact div_pos this hdQ
    cases hcompare : compare (2 * r) d with
    | lt =>
        have hhalf : (r : ℚ) / d < 1 / 2 := by
          rw [div_lt_iff₀ hdQ]
          have : (2 * r : ℚ) < d := by exact_mod_cast Nat.compare_eq_lt.mp hcompare
          linarith
        exact ⟨by linarith, by linarith⟩
    | eq =>
        have hhalf : (r : ℚ) / d = 1 / 2 := by
          rw [div_eq_iff (ne_of_gt hdQ)]
          have : (2 * r : ℚ) = d := by exact_mod_cast Nat.compare_eq_eq.mp hcompare
          linarith
        show (j : ℚ) + r / d = j + 1 / 2
        rw [hhalf]
    | gt =>
        have hhalf : 1 / 2 < (r : ℚ) / d := by
          rw [lt_div_iff₀ hdQ]
          have : (d : ℚ) < 2 * r := by exact_mod_cast Nat.compare_eq_gt.mp hcompare
          linarith
        exact ⟨by linarith, by linarith⟩

-- ============================================================ rounding

/-- The least exponent is reached by numbers of less than fifty-three
bits. -/
theorem targetExponent_eq (e : ℤ) : Format.binary64.targetExponent e = max (e - 53) (-1074) := by
  have hmin : Format.binary64.minExponent = -1074 := by decide
  unfold Format.targetExponent
  rw [hmin]
  rfl

theorem log2_le {k : Nat} (h : n < 2 ^ (k + 1)) : n.log2 ≤ k := by
  by_cases hzero : n = 0
  · rw [hzero]
    exact Nat.zero_le k
  · exact Nat.le_of_lt_succ ((Nat.log2_lt hzero).mpr h)

theorem le_log2 {k : Nat} (h : 2 ^ k ≤ n) : k ≤ n.log2 :=
  (Nat.le_log2 (by have := Nat.two_pow_pos k; omega)).mpr h

/-- A mantissa that is not too long is not shifted. -/
theorem shift_none {r : Nat} {e : ℤ} (hr : r < 2 ^ 53) (he : -1074 ≤ e) :
    shiftToTargetExponent Format.binary64 r e .exact = (⟨r, false, false⟩, e) := by
  have hlog : r.log2 ≤ 52 := log2_le hr
  have hamount : (Format.binary64.targetExponent (totalExponent r e) - e).toNat = 0 := by
    rw [targetExponent_eq, totalExponent]
    omega
  unfold shiftToTargetExponent shiftToExponent
  simp only [hamount]
  refine Prod.ext rfl ?_
  simp

/-- A mantissa that rounding has made too long is shifted by one bit. -/
theorem shift_carry {e : ℤ} (he : -1074 ≤ e) :
    shiftToTargetExponent Format.binary64 (2 ^ 53) e .exact = (⟨2 ^ 52, false, false⟩, e + 1) := by
  have hamount : (Format.binary64.targetExponent (totalExponent (2 ^ 53) e) - e).toNat = 1 := by
    rw [targetExponent_eq, totalExponent, Nat.log2_two_pow]
    omega
  unfold shiftToTargetExponent shiftToExponent
  simp only [hamount]
  refine Prod.ext rfl ?_
  simp

variable {m : Magnitude}

/-- The interval of a double, in units of its last place. -/
theorem units_of_holds (hpos : 0 < m.significand) (h : (Interval.ofMagnitude m).Holds q) :
    (m.significand : ℚ) - m.below / 4 ≤ q / 2 ^ m.exponent ∧
      q / 2 ^ m.exponent ≤ m.significand + 1 / 2 ∧
      (m.significand % 2 = 1 → (m.significand : ℚ) - m.below / 4 < q / 2 ^ m.exponent ∧
        q / 2 ^ m.exponent < m.significand + 1 / 2) := by
  have hquarter := quarter_pos m
  have hlow : ((4 * m.significand - m.below : Nat) : ℚ) = 4 * m.significand - m.below := by
    rw [Nat.cast_sub (by have := below_le m; omega)]
    push_cast
    rfl
  have hunit_pos : (0 : ℚ) < 2 ^ m.exponent := by positivity
  rw [le_div_iff₀ hunit_pos, div_le_iff₀ hunit_pos, lt_div_iff₀ hunit_pos, div_lt_iff₀ hunit_pos,
    unit_eq_quarters]
  refine ⟨?_, ?_, fun hodd => ?_⟩
  · have hle := (le_of_holds h).1
    rw [hlow] at hle
    linarith
  · have hle := (le_of_holds h).2
    push_cast at hle
    linarith
  · obtain ⟨hlt, hlt'⟩ := lt_of_holds hodd h
    rw [hlow] at hlt
    push_cast at hlt'
    exact ⟨by linarith, by linarith⟩

variable {mantissa : Nat} {exponent : ℤ} {accuracy : Accuracy}

/-- How far a mantissa is shifted. It ends with the exponent of the double
to which it belongs, or, right below a power of two, with the exponent
before. -/
theorem shift_amount (hcanonical : Canonical m) {d : Nat}
    (hexponent : exponent + d = m.exponent) {b : ℚ}
    (hlow : (mantissa : ℚ) ≤ b * 2 ^ d) (hhigh : b * 2 ^ d < mantissa + 1)
    (hb : (m.significand : ℚ) - m.below / 4 ≤ b) (hb' : b ≤ m.significand + 1 / 2) :
    (Format.binary64.targetExponent (totalExponent mantissa exponent) - exponent).toNat = d ∨
      (Format.binary64.targetExponent (totalExponent mantissa exponent) - exponent).toNat + 1 = d ∧
        m.significand = 2 ^ 52 ∧ m.below = 1 ∧ -1074 < m.exponent ∧ b < 2 ^ 52 := by
  have hpow : (0 : ℚ) < 2 ^ d := by positivity
  have hsignificand : (m.significand : ℚ) ≤ 2 ^ 53 - 1 := by
    have hlt : m.significand + 1 ≤ 2 ^ 53 := hcanonical.significand_lt
    have : ((m.significand + 1 : Nat) : ℚ) ≤ (2 ^ 53 : Nat) := by exact_mod_cast hlt
    push_cast at this
    linarith
  have hshort : mantissa.log2 ≤ 52 + d := by
    have hlt : (mantissa : ℚ) < 2 ^ (52 + d + 1) := by
      rw [pow_succ, pow_add]
      nlinarith
    exact log2_le (by exact_mod_cast hlt)
  rw [targetExponent_eq, totalExponent]
  by_cases hleast : m.exponent = -1074
  · left
    omega
  · have hge := hcanonical.exponent_ge
    have hnormal : 2 ^ 52 ≤ m.significand := hcanonical.normal.resolve_right hleast
    have hone : (1 : ℚ) ≤ 2 ^ d := one_le_pow₀ (by norm_num)
    by_cases hb52 : 2 ^ 52 ≤ b
    · have hlong : (2 ^ (52 + d) : ℚ) < mantissa + 1 := by
        rw [pow_add]
        nlinarith
      have hlong' : 2 ^ (52 + d) < mantissa + 1 := by exact_mod_cast hlong
      have hlog := le_log2 (Nat.le_of_lt_succ hlong')
      left
      omega
    · have hpower : m.significand = 2 ^ 52 := by
        have hbelow : (m.below : ℚ) ≤ 2 := by exact_mod_cast (below_le m).2
        have hlt : (m.significand : ℚ) < 2 ^ 52 + 1 := by linarith
        have hlt' : m.significand < 2 ^ 52 + 1 := by exact_mod_cast hlt
        omega
      have hbelow : m.below = 1 := by
        unfold Magnitude.below
        rw [if_pos ⟨hpower, hleast⟩]
      by_cases hd : d = 0
      · left
        omega
      · right
        rw [hpower, hbelow] at hb
        push_cast at hb
        have hlong : (2 ^ (51 + d) : ℚ) < mantissa + 1 := by
          rw [pow_add]
          nlinarith
        have hlong' : 2 ^ (51 + d) < mantissa + 1 := by exact_mod_cast hlong
        have hlog := le_log2 (Nat.le_of_lt_succ hlong')
        have hlt : (mantissa : ℚ) < 2 ^ (51 + d + 1) := by
          rw [pow_succ, pow_add]
          nlinarith
        have hlog' : mantissa.log2 ≤ 51 + d := log2_le (by exact_mod_cast hlt)
        refine ⟨by omega, hpower, hbelow, by omega, not_le.mp hb52⟩

theorem mantissa_ofMantissaAndAccuracy (mantissa : Nat) (accuracy : Accuracy) :
    (ExtendedMantissa.ofMantissaAndAccuracy mantissa accuracy).mantissa = mantissa := by
  cases accuracy with
  | exact => rfl
  | inexact o => cases o <;> rfl

theorem first_shift {k : Nat}
    (hk : (Format.binary64.targetExponent (totalExponent mantissa exponent) - exponent).toNat = k) :
    shiftToTargetExponent Format.binary64 mantissa exponent accuracy
      = (ExtendedMantissa.ofMantissaAndAccuracy mantissa accuracy >>> k, exponent + k) := by
  subst hk
  rfl

/-- Rounding is a shift, the rounding of what is left, and a shift by the bit
that this may have carried. -/
theorem round_of_shifts (s : Sign) {em : ExtendedMantissa} {e e' : ℤ} {r : Nat}
    (hfirst : shiftToTargetExponent Format.binary64 mantissa exponent accuracy = (em, e))
    (hsecond : shiftToTargetExponent Format.binary64 em.roundedMantissa e .exact
      = (⟨r, false, false⟩, e')) (hr : 0 < r) :
    roundWithAccuracy Format.binary64 s mantissa exponent accuracy = .finite s r e' hr := by
  unfold roundWithAccuracy
  rw [hfirst]
  dsimp only
  rw [hsecond]
  dsimp only
  rw [dif_neg (by omega)]

/-- A real that rounds to a double is rounded to it. -/
theorem round_nearest (s : Sign) (hcanonical : Canonical m) (hpos : 0 < m.significand)
    (hstands : Stands (.ofMantissaAndAccuracy mantissa accuracy) (q / 2 ^ exponent))
    (hle : exponent ≤ m.exponent) (h : (Interval.ofMagnitude m).Holds q) :
    roundWithAccuracy Format.binary64 s mantissa exponent accuracy
      = .finite s m.significand m.exponent hpos := by
  obtain ⟨d, hd⟩ := Int.eq_ofNat_of_zero_le (show 0 ≤ m.exponent - exponent by omega)
  obtain ⟨hlow, hhigh, hodd⟩ := units_of_holds hpos h
  have hexponent : exponent + (d : ℤ) = m.exponent := by omega
  have hscaled : q / 2 ^ exponent = q / 2 ^ m.exponent * 2 ^ d := by
    rw [← hexponent, zpow_add₀ (by norm_num), zpow_natCast]
    field_simp
  generalize q / 2 ^ m.exponent = b at hlow hhigh hodd hscaled
  rw [hscaled] at hstands
  have hbounds := hstands.bounds
  rw [mantissa_ofMantissaAndAccuracy] at hbounds
  have hbelow : (m.below : ℚ) ≤ 2 := by exact_mod_cast (below_le m).2
  have hge := hcanonical.exponent_ge
  rcases shift_amount hcanonical hexponent hbounds.1 hbounds.2 hlow hhigh with
    hamount | ⟨hamount, hpower, hone, hleast, hb⟩
  · -- what is left is near the significand
    have hleft := hstands.shiftRight d
    rw [mul_div_cancel_right₀ _ (by positivity)] at hleft
    have hrounded := hleft.rounded (by linarith) hhigh fun h1 => by
      obtain ⟨hlt, hlt'⟩ := hodd h1
      exact ⟨by linarith, hlt'⟩
    refine round_of_shifts s (first_shift hamount) ?_ hpos
    rw [hrounded, hexponent]
    exact shift_none hcanonical.significand_lt hge
  · -- what is left is near the next power of two
    obtain ⟨k, hk⟩ : ∃ k, d = k + 1 := ⟨d - 1, by omega⟩
    have hleft := hstands.shiftRight k
    have hdouble : b * 2 ^ d / 2 ^ k = 2 * b := by
      rw [hk, pow_succ]
      field_simp
    rw [hdouble] at hleft
    rw [hpower, hone] at hlow
    push_cast at hlow
    have hrounded := hleft.rounded (n := 2 ^ 53) (by push_cast; linarith) (by push_cast; linarith)
      fun hodd' => absurd hodd' (by decide)
    have hcarry := shift_carry (e := exponent + k) (by omega)
    have hcarried : exponent + (k : ℤ) + 1 = m.exponent := by omega
    rw [hcarried, ← hpower] at hcarry
    have hshift : (Format.binary64.targetExponent (totalExponent mantissa exponent)
        - exponent).toNat = k := by omega
    refine round_of_shifts s (first_shift hshift) ?_ hpos
    rw [hrounded]
    exact hcarry

-- ============================================== products and quotients

theorem lt_of_holds_canonical (hcanonical : Canonical m) (hpos : 0 < m.significand)
    (h : (Interval.ofMagnitude m).Holds q) : q < 2 ^ (m.exponent + 53) := by
  have hunit : (0 : ℚ) < 2 ^ m.exponent := by positivity
  have hhigh := (units_of_holds hpos h).2.1
  have hsignificand : (m.significand : ℚ) + 1 ≤ 2 ^ 53 := by
    exact_mod_cast hcanonical.significand_lt
  rw [div_le_iff₀ hunit] at hhigh
  have hbits : (2 : ℚ) ^ (53 : ℤ) = 2 ^ 53 := by norm_num
  rw [zpow_add₀ (by norm_num), hbits]
  nlinarith

theorem quarter_le_of_holds (hpos : 0 < m.significand) (h : (Interval.ofMagnitude m).Holds q) :
    m.quarter ≤ q := by
  have hbelow := below_le m
  have hlow : 1 ≤ 4 * m.significand - m.below := by omega
  have hlow' : (1 : ℚ) ≤ (4 * m.significand - m.below : Nat) := by exact_mod_cast hlow
  exact (le_mul_of_one_le_left (le_of_lt (quarter_pos m)) hlow').trans (le_of_holds h).1

theorem pos_of_holds (hpos : 0 < m.significand) (h : (Interval.ofMagnitude m).Holds q) : 0 < q :=
  (quarter_pos m).trans_le (quarter_le_of_holds hpos h)

/-- A power of two below a real that rounds to a double has no more bits than
the double. -/
theorem exponent_le_of_holds (hcanonical : Canonical m) (hpos : 0 < m.significand)
    (h : (Interval.ofMagnitude m).Holds q) {e : ℤ} (he : 2 ^ e < q) :
    e ≤ m.exponent + 52 := by
  have hlt := he.trans (lt_of_holds_canonical hcanonical hpos h)
  have hexponents := (zpow_lt_zpow_iff_right₀ (by norm_num)).mp hlt
  omega

variable {m₁ m₂ : Nat} {e₁ e₂ : ℤ}

theorem log2_bounds (h : 0 < n) : (2 : ℚ) ^ n.log2 ≤ n ∧ (n : ℚ) < 2 ^ (n.log2 + 1) := by
  constructor
  · exact_mod_cast Nat.log2_self_le (by omega)
  · exact_mod_cast Nat.lt_log2_self

/-- A product that rounds to a double is multiplied to it, if the mantissas
have bits enough. -/
theorem mul_nearest (s₁ s₂ : Sign) (hcanonical : Canonical m) (hpos : 0 < m.significand)
    (h₁ : 0 < m₁) (h₂ : 0 < m₂) (hlong : 2 ^ 53 ≤ m₁ * m₂)
    (h : (Interval.ofMagnitude m).Holds (m₁ * 2 ^ e₁ * (m₂ * 2 ^ e₂))) :
    UnpackedFloat.mul Format.binary64 (.finite s₁ m₁ e₁ h₁) (.finite s₂ m₂ e₂ h₂)
      = .finite (s₁ * s₂) m.significand m.exponent hpos := by
  have hproduct : (m₁ * 2 ^ e₁ * (m₂ * 2 ^ e₂) : ℚ) = (m₁ * m₂ : Nat) * 2 ^ (e₁ + e₂) := by
    rw [zpow_add₀ (by norm_num)]
    push_cast
    ring
  rw [hproduct] at h
  refine round_nearest _ hcanonical hpos ?_ ?_ h
  · rw [mul_div_cancel_right₀ _ (by positivity)]
    rfl
  · have hlong' : (2 : ℚ) ^ 53 ≤ (m₁ * m₂ : Nat) := by exact_mod_cast hlong
    have hstep : (0 : ℚ) < 2 ^ (e₁ + e₂) := by positivity
    have hbits : (2 : ℚ) ^ (52 : ℤ) = 2 ^ 52 := by norm_num
    have hlt : (2 : ℚ) ^ (e₁ + e₂ + 52) < (m₁ * m₂ : Nat) * 2 ^ (e₁ + e₂) := by
      rw [zpow_add₀ (by norm_num), hbits]
      nlinarith
    have := exponent_le_of_holds hcanonical hpos h hlt
    omega

/-- A quotient has no less bits than the difference says. -/
theorem lt_quotient (h₁ : 0 < m₁) (h₂ : 0 < m₂) :
    (2 : ℚ) ^ (m₁.log2 + e₁ - (m₂.log2 + 1 + e₂)) < m₁ * 2 ^ e₁ / (m₂ * 2 ^ e₂) := by
  have hdividend : (2 : ℚ) ^ (m₁.log2 + e₁) ≤ m₁ * 2 ^ e₁ := by
    rw [zpow_add₀ (by norm_num), zpow_natCast]
    exact mul_le_mul_of_nonneg_right (log2_bounds h₁).1 (by positivity)
  have hdivisor : m₂ * 2 ^ e₂ < (2 : ℚ) ^ (m₂.log2 + 1 + e₂) := by
    have hcast : (m₂.log2 + 1 : ℤ) = (m₂.log2 + 1 : Nat) := by push_cast; rfl
    rw [hcast, zpow_add₀ (by norm_num), zpow_natCast]
    exact mul_lt_mul_of_pos_right (log2_bounds h₂).2 (by positivity)
  have hpos₂ : (0 : ℚ) < m₂ * 2 ^ e₂ := by
    have : (0 : ℚ) < m₂ := by exact_mod_cast h₂
    positivity
  have hstep : (0 : ℚ) < 2 ^ (m₁.log2 + e₁ - (m₂.log2 + 1 + e₂)) := by positivity
  rw [lt_div_iff₀ hpos₂]
  calc (2 : ℚ) ^ (m₁.log2 + e₁ - (m₂.log2 + 1 + e₂)) * (m₂ * 2 ^ e₂)
      < 2 ^ (m₁.log2 + e₁ - (m₂.log2 + 1 + e₂)) * 2 ^ (m₂.log2 + 1 + e₂) :=
        mul_lt_mul_of_pos_left hdivisor hstep
    _ = 2 ^ (m₁.log2 + e₁) := by rw [← zpow_add₀ (by norm_num), sub_add_cancel]
    _ ≤ m₁ * 2 ^ e₁ := hdividend

/-- A quotient that rounds to a double is divided to it. -/
theorem div_nearest (s₁ s₂ : Sign) (hcanonical : Canonical m) (hpos : 0 < m.significand)
    (h₁ : 0 < m₁) (h₂ : 0 < m₂)
    (h : (Interval.ofMagnitude m).Holds (m₁ * 2 ^ e₁ / (m₂ * 2 ^ e₂))) :
    UnpackedFloat.div Format.binary64 (.finite s₁ m₁ e₁ h₁) (.finite s₂ m₂ e₂ h₂)
      = .finite (s₁ / s₂) m.significand m.exponent hpos := by
  unfold UnpackedFloat.div divCore
  dsimp only
  have htarget : min (e₁ - e₂) (Format.binary64.targetExponent
      (totalExponent m₁ e₁ - totalExponent m₂ e₂)) ≤ m.exponent := by
    have hlog := exponent_le_of_holds hcanonical hpos h (lt_quotient h₁ h₂)
    have hge := hcanonical.exponent_ge
    rw [targetExponent_eq, totalExponent, totalExponent]
    omega
  have hshift : min (e₁ - e₂) (Format.binary64.targetExponent
      (totalExponent m₁ e₁ - totalExponent m₂ e₂)) ≤ e₁ - e₂ := min_le_left _ _
  generalize min (e₁ - e₂) (Format.binary64.targetExponent
    (totalExponent m₁ e₁ - totalExponent m₂ e₂)) = target at htarget hshift ⊢
  obtain ⟨k, hk⟩ := Int.eq_ofNat_of_zero_le (show 0 ≤ e₁ - e₂ - target by omega)
  rw [hk, Int.toNat_natCast, Nat.shiftLeft_eq]
  refine round_nearest _ hcanonical hpos ?_ htarget h
  have hquotient : (m₁ * 2 ^ e₁ / (m₂ * 2 ^ e₂) / 2 ^ target : ℚ) = (m₁ * 2 ^ k : Nat) / m₂ := by
    have he : e₁ = e₂ + target + (k : ℤ) := by omega
    have hm₂ : (m₂ : ℚ) ≠ 0 := by exact_mod_cast ne_of_gt h₂
    rw [he, zpow_add₀ (by norm_num), zpow_add₀ (by norm_num), zpow_natCast]
    push_cast
    field_simp
  rw [hquotient]
  exact stands_quotient (m₁ * 2 ^ k) h₂

end MessageCatalog.Decimal
