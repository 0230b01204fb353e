/-
No text of a number is shorter than its own.

The grids on which the numeral of a double is looked for get finer by one
digit at a time, and a grid without a numeral has nothing at all in the
interval (`not_holds_of_hitAt_none`). So what is in the interval has more
digits than grids have been tried in vain (`lt_digitCount_of_holds`), and the
numeral that is found has, without its zeros, no more than one digit for each
grid that was tried (`digitCount_strip_le`). Among the numerals that are read
as a double, the one that is written has the fewest digits (`shortest_le`).
-/
import MessageCatalog.Proofs.Decimal.Reader

namespace MessageCatalog.Decimal

variable {m : Magnitude} {n : Nat} {tie : Tie} {numeral : Numeral}

-- ========================================================= digits needed

/-- A grid without a numeral has nothing at all in the interval. -/
theorem not_holds_of_hitAt_none (hpos : 0 < m.significand) (h : hitAt tie m n = none) (c : Nat) :
    ¬(Interval.ofMagnitude m).Holds (c * (10 : ℚ) ^ (leadingScale m - n)) := by
  intro hholds
  obtain ⟨k, hle, hlt, hk, hk'⟩ := neighbours_of_hitAt_none h
  have hstep : (0 : ℚ) ≤ 10 ^ (leadingScale m - n) := by positivity
  have hexact := holds_exact hpos
  rcases Nat.lt_or_ge k c with hkc | hck
  · refine hk' (hexact.between hholds (le_of_lt hlt) (mul_le_mul_of_nonneg_right ?_ hstep))
    exact_mod_cast hkc
  · refine hk (hholds.between hexact (mul_le_mul_of_nonneg_right ?_ hstep) hle)
    exact_mod_cast hck

/-- A numeral in the interval has more digits than there are grids without
one. If it did not, it would be on one of them, or a power of ten between it
and the value would be. -/
theorem lt_digitCount_of_holds (hcanonical : Canonical m) (hpos : 0 < m.significand)
    (hnone : ∀ k < n, hitAt tie m k = none) (h : (Interval.ofMagnitude m).Holds numeral.exact) :
    n < digitCount numeral.digits := by
  by_contra hshort
  have hdigits := digits_pos_of_exact (pos_of_holds hpos h)
  have hcount := (digitCount_bounds hdigits).2.2
  obtain ⟨hnumeral, hnumeral'⟩ := leading_bounds hdigits
  obtain ⟨hvalue, hvalue'⟩ := leadingScale_bounds hcanonical hpos
  have hexact := holds_exact hpos
  have hfirst := hnone 0 (by omega)
  have hstart : leadingScale m - (0 : Nat) = leadingScale m := by omega
  rcases lt_trichotomy numeral.leading (leadingScale m) with hlt | heq | hgt
  · have hbelow : numeral.exact ≤ 10 ^ leadingScale m :=
      (le_of_lt hnumeral').trans (zpow_le_zpow_right₀ (by norm_num) (by omega))
    refine not_holds_of_hitAt_none hpos hfirst 1 ?_
    rw [hstart, Nat.cast_one, one_mul]
    exact h.between hexact hbelow hvalue
  · refine not_holds_of_hitAt_none hpos (hnone (digitCount numeral.digits - 1) (by omega))
      numeral.digits ?_
    have hscale : leadingScale m - (digitCount numeral.digits - 1 : Nat) = numeral.scale := by
      unfold Numeral.leading at heq
      omega
    rw [hscale]
    exact h
  · have habove : (10 : ℚ) ^ (leadingScale m + 1) ≤ numeral.exact :=
      (zpow_le_zpow_right₀ (by norm_num) (by omega)).trans hnumeral
    refine not_holds_of_hitAt_none hpos hfirst 10 ?_
    have hten : ((10 : Nat) : ℚ) * 10 ^ leadingScale m = 10 ^ (leadingScale m + 1) := by
      rw [zpow_add_one₀ (by norm_num)]
      push_cast
      ring
    rw [hstart, hten]
    exact hexact.between h (le_of_lt hvalue') habove

-- =========================================================== digits used

theorem digitCount_le {k : Nat} (hk : 0 < k) (h : n < 10 ^ k) : digitCount n ≤ k :=
  (Nat.length_toDigits_le_iff (by decide) hk).mpr h

/-- A grid has a numeral with the digits that it is fine enough for, or with
the power of ten after those. -/
theorem digits_le_of_hitAt (hcanonical : Canonical m) (hpos : 0 < m.significand)
    (h : hitAt tie m n = some numeral) : numeral.digits ≤ 10 ^ (n + 1) := by
  obtain ⟨c, hc, rfl⟩ := Option.map_eq_some_iff.mp h
  have hstep : (0 : ℚ) < 10 ^ (leadingScale m - n) := by positivity
  have hle := ((Interval.ofMagnitude m).neighbours_onGrid (twoTo_pos _) (leadingScale m - n)).1
  have hneighbour := Interval.neighbour_of_hit hc
  generalize ((Interval.ofMagnitude m).onGrid (leadingScale m - n)).value
    / ((Interval.ofMagnitude m).onGrid (leadingScale m - n)).den = k at hle hneighbour
  rw [exact_ofMagnitude] at hle
  have hlt : (k : ℚ) < (10 ^ (n + 1) : Nat) := by
    have hend : (10 : ℚ) ^ (leadingScale m + 1)
        = (10 ^ (n + 1) : Nat) * 10 ^ (leadingScale m - n) := by
      have hexponent : leadingScale m + 1 = (n + 1 : Nat) + (leadingScale m - n) := by omega
      rw [hexponent, zpow_add₀ (by norm_num), zpow_natCast]
      push_cast
      rfl
    have hvalue := (leadingScale_bounds hcanonical hpos).2
    rw [hend] at hvalue
    exact lt_of_mul_lt_mul_right (hle.trans_lt hvalue) (le_of_lt hstep)
  have hlt' : k < 10 ^ (n + 1) := by exact_mod_cast hlt
  show c ≤ 10 ^ (n + 1)
  omega

theorem strip_digits_le (fuel : Nat) (numeral : Numeral) :
    (numeral.strip fuel).digits ≤ numeral.digits := by
  induction fuel generalizing numeral with
  | zero => exact le_refl _
  | succ fuel ih =>
      rw [Numeral.strip]
      split
      · exact (ih _).trans (Nat.div_le_self _ _)
      · exact le_refl _

/-- Without its zeros a numeral has no more digits than the grid is fine
enough for. -/
theorem digitCount_strip_le (h : numeral.digits ≤ 10 ^ (n + 1)) (fuel : Nat) :
    digitCount (numeral.strip (fuel + 1)).digits ≤ n + 1 := by
  refine digitCount_le (by omega) ?_
  rcases Nat.lt_or_eq_of_le h with hlt | heq
  · exact (strip_digits_le _ _).trans_lt hlt
  · have hzero : numeral.digits % 10 = 0 ∧ numeral.digits ≠ 0 := by
      rw [heq, pow_succ]
      exact ⟨Nat.mul_mod_left _ _, by positivity⟩
    rw [Numeral.strip, if_pos hzero]
    refine (strip_digits_le _ _).trans_lt ?_
    show numeral.digits / 10 < _
    rw [heq]
    exact Nat.div_lt_self (by positivity) (by decide)

/-- No numeral that rounds to the double has less digits than the one that is
written. -/
theorem shortest_le (tie : Tie) (hcanonical : Canonical m) (hpos : 0 < m.significand)
    (h : (Interval.ofMagnitude m).Holds numeral.exact) :
    digitCount (shortest tie m).digits ≤ digitCount numeral.digits := by
  obtain ⟨n, -, found, hhit, hnone, heq⟩ := shortest_found tie hcanonical hpos
  have hmore := lt_digitCount_of_holds hcanonical hpos hnone h
  have hless := digitCount_strip_le (digits_le_of_hitAt hcanonical hpos hhit) 19
  rw [heq]
  exact hless.trans hmore

-- ======================================================== shortest texts

/-- The text of a double without a sign: it is read as the double, and no
numeral that is read as the double has less digits. -/
structure ShortestText (x : Float) (m : Magnitude) (w : Written) : Prop where
  read : Decimal.read x = .finite false m
  chars : (text x).toList = w.chars
  unsigned : w.negative = false
  reads_back : ofText? w.chars = some x
  fewest : ∃ n : Numeral, w.numeral.exact = n.exact ∧
    ∀ other : Numeral, m.ReadFrom other.exact → digitCount n.digits ≤ digitCount other.digits

theorem exists_shortestText {x : Float} (h : read x = .finite false m) :
    ∃ w, ShortestText x m w := by
  obtain ⟨w, hchars, hnegative, hexact⟩ := exists_written_text h
  refine ⟨w, h, hchars, hnegative, hchars ▸ ofText?_text h, _, hexact, fun other hother => ?_⟩
  by_cases hpos : 0 < m.significand
  · exact shortest_le .upward (canonical_of_read h) hpos (hother.holds hpos)
  · have hzero : m.significand = 0 := by omega
    unfold shortest
    rw [if_pos hzero]
    exact Nat.length_toDigits_pos

end MessageCatalog.Decimal
