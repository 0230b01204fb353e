/-
What written numbers look like, and what they denote.

A text that shows a finite number without an exponent is a sign, digits,
and digits behind a point if there are any (`Written`). Numbers are written
this way both with their shortest digits (`exists_written_text`) and with a
fixed count of fraction digits, of which there are then just so many
(`exists_written_fixed`).

What such a text denotes is read off it without rounding (`denoted?`). The
digits are those of one natural number, whether or not zeros had to be put
before them to have a digit before the point, so a written number denotes
the numeral that was chosen for it.
-/
import Mathlib
import MessageCatalog.Decimal.Fixed
import MessageCatalog.Decimal.Reader

namespace MessageCatalog.Decimal

/-- A number that stands for a finite one is finite. -/
theorem isFinite_iff {x : Float} :
    isFinite x = true ↔ ∃ negative m, read x = .finite negative m := by
  unfold isFinite read
  by_cases hbits : exponentBits x = 2047
  · rw [if_pos hbits, hbits]
    split <;> simp
  · rw [if_neg hbits, bne_iff_ne.mpr hbits]
    simp

-- ============================================================== digits

/-- All characters are digits. -/
def Digits (cs : List Char) : Prop := ∀ c ∈ cs, isDigit c = true

theorem Digits.append {cs ds : List Char} (hcs : Digits cs) (hds : Digits ds) :
    Digits (cs ++ ds) := by
  intro c hc
  rcases List.mem_append.mp hc with hc | hc
  · exact hcs c hc
  · exact hds c hc

theorem digits_zeros (n : Nat) : Digits (List.replicate n '0') := by
  intro c hc
  rw [(List.mem_replicate.mp hc).2]
  rfl

theorem digits_digitChars (n : Nat) : Digits (digitChars n) := fun _ hc =>
  Nat.isDigit_of_mem_toDigits (by decide) (by decide) hc

theorem Digits.point_not_mem {cs : List Char} (h : Digits cs) : '.' ∉ cs := by
  intro hpoint
  exact absurd (h _ hpoint) (by decide)

/-- The digits of a natural number denote it. -/
theorem digitsValue_digitChars (n : Nat) : digitsValue (digitChars n) = n :=
  Nat.ofDigitChars_ten_toDigits

theorem digitsValue_append (cs ds : List Char) :
    digitsValue (cs ++ ds) = digitsValue cs * 10 ^ ds.length + digitsValue ds := by
  have happend : digitsValue (cs ++ ds) = Nat.ofDigitChars 10 ds (digitsValue cs) :=
    Nat.ofDigitChars_append 0
  rw [happend, Nat.ofDigitChars_eq_ofDigitChars_zero, Nat.mul_comm]
  rfl

theorem digitsValue_zeros (n : Nat) : digitsValue (List.replicate n '0') = 0 := by
  have hzeros : Nat.ofDigitChars 10 (List.replicate n '0') 0 = 10 ^ n * 0 :=
    Nat.ofDigitChars_replicate_zero
  rw [Nat.mul_zero] at hzeros
  exact hzeros

theorem toNat_of_isDigit {c : Char} (h : isDigit c = true) : 48 ≤ c.toNat ∧ c.toNat ≤ 57 := by
  have hrange : '0' ≤ c ∧ c ≤ '9' := by simpa [isDigit] using h
  exact hrange

theorem digitsValue_singleton {c : Char} (h : isDigit c = true) :
    digitsValue [c] < 10 ∧ (c ≠ '0' → 0 < digitsValue [c]) := by
  obtain ⟨hlow, hhigh⟩ := toNat_of_isDigit h
  have hvalue : digitsValue [c] = c.toNat - 48 := by
    show 10 * 0 + (c.toNat - 48) = c.toNat - 48
    omega
  rw [hvalue]
  refine ⟨by omega, fun hzero => ?_⟩
  have hne : c.toNat ≠ 48 := fun heq => hzero (Char.toNat_inj.mp heq)
  omega

/-- So many digits denote less than that power of ten. -/
theorem digitsValue_lt {ds : List Char} (h : Digits ds) : digitsValue ds < 10 ^ ds.length := by
  induction ds using List.reverseRecOn with
  | nil => exact Nat.one_pos
  | append_singleton ds d ih =>
      have hds := ih fun c hc => h c (List.mem_append_left _ hc)
      have hd := (digitsValue_singleton (h d (by simp))).1
      rw [digitsValue_append, List.length_append, List.length_singleton, pow_succ]
      omega

/-- The last digits are what is left by a power of ten. -/
theorem digitsValue_drop {ds : List Char} (h : Digits ds) {n : Nat} (hn : n ≤ ds.length) :
    digitsValue (ds.drop (ds.length - n)) = digitsValue ds % 10 ^ n := by
  have hlength : (ds.drop (ds.length - n)).length = n := by
    rw [List.length_drop]
    omega
  have hlast := digitsValue_lt fun c hc => h c (List.mem_of_mem_drop (i := ds.length - n) hc)
  have hsplit := digitsValue_append (ds.take (ds.length - n)) (ds.drop (ds.length - n))
  rw [List.take_append_drop, hlength] at hsplit
  rw [hlength] at hlast
  rw [hsplit, Nat.mul_comm, Nat.mul_add_mod, Nat.mod_eq_of_lt hlast]

/-- The first digits are how often a power of ten goes into all of them. -/
theorem digitsValue_take {ds : List Char} (h : Digits ds) (n : Nat) :
    digitsValue (ds.take n) = digitsValue ds / 10 ^ (ds.length - n) := by
  have hlast := digitsValue_lt fun c hc => h c (List.mem_of_mem_drop (i := n) hc)
  have hsplit := digitsValue_append (ds.take n) (ds.drop n)
  rw [List.take_append_drop, List.length_drop] at hsplit
  rw [List.length_drop] at hlast
  rw [hsplit, Nat.add_div_of_dvd_right (Dvd.intro_left _ rfl), Nat.mul_div_cancel _ (by positivity),
    Nat.div_eq_of_lt hlast, Nat.add_zero]

-- ===================================================== written decimals

/-- A sign, digits and fraction digits, of which there may be none. -/
structure Written where
  negative : Bool
  whole : List Char
  fraction : List Char
  whole_ne_nil : whole ≠ []
  digits_whole : Digits whole
  digits_fraction : Digits fraction

/-- A fraction with its point; no digits need no point. -/
def pointAnd : List Char → List Char
  | [] => []
  | ds => '.' :: ds

theorem pointAnd_of_ne_nil {ds : List Char} (h : ds ≠ []) : pointAnd ds = '.' :: ds := by
  cases ds with
  | nil => exact absurd rfl h
  | cons d rest => rfl

/-- The magnitude of a numeral. -/
def Numeral.exact (n : Numeral) : ℚ := n.digits * (10 : ℚ) ^ n.scale

namespace Written

/-- The text of a written decimal. -/
def chars (w : Written) : List Char := signed w.negative (w.whole ++ pointAnd w.fraction)

/-- The numeral of all its digits. -/
def numeral (w : Written) : Numeral := ⟨digitsValue (w.whole ++ w.fraction), -w.fraction.length⟩

theorem splitSign_chars (w : Written) :
    splitSign w.chars = (w.negative, w.whole ++ pointAnd w.fraction) := by
  obtain ⟨c, rest, hwhole⟩ := List.exists_cons_of_ne_nil w.whole_ne_nil
  have hc : isDigit c = true := w.digits_whole c (by rw [hwhole]; exact List.mem_cons_self ..)
  unfold chars signed
  rw [hwhole]
  cases w.negative with
  | true => rfl
  | false =>
      have hminus : c ≠ '-' := by
        rintro rfl
        exact absurd hc (by decide)
      have hplus : c ≠ '+' := by
        rintro rfl
        exact absurd hc (by decide)
      simp [splitSign, hminus, hplus]

/-- Behind its sign a written decimal is read digit by digit. -/
theorem unsigned?_chars (w : Written) :
    unsigned? (w.whole ++ pointAnd w.fraction) = some w.numeral := by
  have hstop : isDigit '.' = false := by decide
  unfold unsigned? numeral
  rw [List.takeWhile_append_of_pos w.digits_whole, List.dropWhile_append_of_pos w.digits_whole]
  cases hfraction : w.fraction with
  | nil => simp [pointAnd, exponent?, w.whole_ne_nil]
  | cons d ds =>
      have hdigits : Digits (d :: ds) := hfraction ▸ w.digits_fraction
      have htake : (d :: ds).takeWhile isDigit = d :: ds := List.takeWhile_eq_self_iff.mpr hdigits
      have hdrop : (d :: ds).dropWhile isDigit = [] := List.dropWhile_eq_nil_iff.mpr hdigits
      simp [pointAnd, hstop, htake, hdrop, exponent?]

end Written

/-- The sign and the magnitude that a decimal text denotes. -/
def denoted? (s : List Char) : Option (Bool × ℚ) :=
  let (negative, body) := splitSign s
  (unsigned? body).map fun n => (negative, n.exact)

theorem denoted?_chars (w : Written) : denoted? w.chars = some (w.negative, w.numeral.exact) := by
  unfold denoted?
  rw [w.splitSign_chars]
  simp only
  rw [w.unsigned?_chars]
  rfl

-- ===================================================== written numbers

/-- Digits before which no zero has to be put are written as they are, with
zeros behind them. -/
theorem exists_written_whole (negative : Bool) (n zeros : Nat) : ∃ w : Written,
    signed negative (digitChars n ++ List.replicate zeros '0') = w.chars ∧
    w.negative = negative ∧ w.fraction = [] ∧ w.numeral = ⟨n * 10 ^ zeros, 0⟩ := by
  refine ⟨⟨negative, digitChars n ++ List.replicate zeros '0', [], ?_,
    (digits_digitChars n).append (digits_zeros zeros), fun _ hc => nomatch hc⟩, ?_, rfl, rfl, ?_⟩
  · simp [digitChars]
  · rw [Written.chars, pointAnd, List.append_nil]
  · rw [Written.numeral, List.append_nil, digitsValue_append, digitsValue_digitChars,
      digitsValue_zeros, List.length_replicate]
    simp

/-- A point divides digits into those before it and those behind it. -/
theorem exists_written_divided (negative : Bool) {ds : List Char} {places : Nat} (hds : Digits ds)
    (hplaces : 0 < places) (hlength : places < ds.length) : ∃ w : Written,
    signed negative (ds.take (ds.length - places) ++ '.' :: ds.drop (ds.length - places))
      = w.chars ∧ w.negative = negative ∧ w.fraction.length = places ∧
    w.numeral = ⟨digitsValue ds, -places⟩ := by
  have hfraction : (ds.drop (ds.length - places)).length = places := by
    rw [List.length_drop]
    omega
  have hwhole : ds.take (ds.length - places) ≠ [] := by
    apply List.ne_nil_of_length_pos
    rw [List.length_take]
    omega
  refine ⟨⟨negative, ds.take (ds.length - places), ds.drop (ds.length - places), hwhole,
    fun c hc => hds c (List.mem_of_mem_take hc), fun c hc => hds c (List.mem_of_mem_drop hc)⟩,
    ?_, rfl, hfraction, ?_⟩
  · have hne : ds.drop (ds.length - places) ≠ [] := by
      apply List.ne_nil_of_length_pos
      omega
    rw [Written.chars, pointAnd_of_ne_nil hne]
  · rw [Written.numeral, List.take_append_drop, hfraction]

/-- Before a point there is a digit; the zeros that see to that denote
nothing. -/
theorem exists_written_pointed (negative : Bool) (n : Nat) {places : Nat} (hplaces : 0 < places) :
    ∃ w : Written, signed negative (pointed places (digitChars n)) = w.chars ∧
      w.negative = negative ∧ w.fraction.length = places ∧ w.numeral = ⟨n, -places⟩ := by
  have hvalue : digitsValue (List.replicate (places + 1 - (digitChars n).length) '0'
      ++ digitChars n) = n := by
    rw [digitsValue_append, digitsValue_zeros, digitsValue_digitChars]
    simp
  have hlength : places < (List.replicate (places + 1 - (digitChars n).length) '0'
      ++ digitChars n).length := by
    rw [List.length_append, List.length_replicate]
    omega
  have hdivided := exists_written_divided negative
    ((digits_zeros _).append (digits_digitChars n)) hplaces hlength
  rw [hvalue] at hdivided
  exact hdivided

variable {x : Float} {negative : Bool} {m : Magnitude}

/-- A numeral without an exponent denotes itself. It has the fraction digits
that its scale asks for. -/
theorem exists_written_positional (negative : Bool) (n : Numeral) : ∃ w : Written,
    signed negative (n.positional "") = w.chars ∧ w.negative = negative ∧
    w.fraction.length = (-n.scale).toNat ∧ w.numeral.exact = n.exact := by
  by_cases hscale : 0 ≤ n.scale
  · obtain ⟨w, hw, hnegative, hfraction, hnumeral⟩ :=
      exists_written_whole negative n.digits n.scale.toNat
    refine ⟨w, ?_, hnegative, ?_, ?_⟩
    · rw [Numeral.positional, if_pos hscale, ← hw]
      simp
    · rw [hfraction, List.length_nil]
      omega
    · obtain ⟨k, hk⟩ := Int.eq_ofNat_of_zero_le hscale
      rw [hnumeral, Numeral.exact, Numeral.exact, hk]
      push_cast
      simp
  · have hplaces : 0 < (-n.scale).toNat := by omega
    obtain ⟨w, hw, hnegative, hfraction, hnumeral⟩ :=
      exists_written_pointed negative n.digits hplaces
    refine ⟨w, ?_, hnegative, hfraction, ?_⟩
    · rw [Numeral.positional, if_neg hscale, hw]
    · have hcast : -(((-n.scale).toNat : Nat) : Int) = n.scale := by omega
      rw [hnumeral, Numeral.exact, Numeral.exact, hcast]

/-- A finite number as text is its sign and its shortest numeral without an
exponent. -/
theorem text_of_read (h : read x = .finite negative m) :
    (text x).toList = signed negative ((shortest .upward m).positional "") := by
  unfold text Style.write
  rw [h, String.toList_ofList]
  rfl

/-- A finite number as text denotes its shortest numeral. -/
theorem exists_written_text (h : read x = .finite negative m) : ∃ w : Written,
    (text x).toList = w.chars ∧ w.negative = negative ∧
    w.numeral.exact = (shortest .upward m).exact := by
  obtain ⟨w, hw, hnegative, -, hexact⟩ := exists_written_positional negative (shortest .upward m)
  exact ⟨w, (text_of_read h).trans hw, hnegative, hexact⟩

/-- A finite number with a fixed count of fraction digits has just so many,
and denotes what it was rounded to. -/
theorem exists_written_fixed (places : Nat) (h : read x = .finite negative m) : ∃ w : Written,
    (fixed places x).toList = w.chars ∧ w.negative = negative ∧ w.fraction.length = places ∧
    w.numeral = ⟨roundHalfEven (m.num * tenTo places) m.den, -places⟩ := by
  have htext : (fixed places x).toList = signed negative (m.fixed places) := by
    unfold fixed
    rw [h, String.toList_ofList]
  unfold Magnitude.fixed at htext
  simp only at htext
  by_cases hplaces : places = 0
  · subst hplaces
    obtain ⟨w, hw, hnegative, hfraction, hnumeral⟩ :=
      exists_written_whole negative (roundHalfEven (m.num * tenTo 0) m.den) 0
    refine ⟨w, ?_, hnegative, ?_, ?_⟩
    · rw [htext, if_pos rfl, ← hw]
      simp
    · rw [hfraction, List.length_nil]
    · rw [hnumeral]
      simp
  · rw [if_neg hplaces] at htext
    rw [htext]
    exact exists_written_pointed negative _ (Nat.pos_of_ne_zero hplaces)

end MessageCatalog.Decimal
