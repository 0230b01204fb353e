/-
What the operands of a number say about it.

A whole number below `2 ^ 63` is its own operand. Any other number is taken
from its shortest text (`ShortestText`), of which the operands keep eighteen
digits on either side of the point (`Keeps`): a longer whole part keeps its
last digits with a one before them, and a longer fraction its first digits.
As long as nothing is cut off, the operands describe just what the text
denotes (`Keeps.exact_eq`).

The sign is not looked at, and a text that denotes a number is read as it
(`ofText?_of_denoted`), so numbers with either sign and texts that denote
them have the same operands (`operands_describe_magnitude`).
-/
import MessageCatalog.Proofs.Decimal.Minimal
import MessageCatalog.Proofs.Function.Number
import MessageCatalog.Proofs.Plural.Rules

namespace MessageCatalog.Plural.Operands

open Decimal

-- ======================================================== trailing zeros

/-- The zeros at the end are a power of ten, and without them there is no
zero at the end. -/
theorem digitsValue_withoutZeros {ds : List Char} (h : Digits ds) : ∃ zeros,
    digitsValue ds = digitsValue (withoutZeros ds) * 10 ^ zeros ∧
    (digitsValue (withoutZeros ds) = 0 ∨ digitsValue (withoutZeros ds) % 10 ≠ 0) := by
  have hall : ∀ c ∈ (ds.reverse.takeWhile (· = '0')).reverse, c = '0' := fun c hc => by
    simpa using List.mem_takeWhile_imp (List.mem_reverse.mp hc)
  have hzeros := List.eq_replicate_of_mem hall
  have hsplit : ds = withoutZeros ds ++ (ds.reverse.takeWhile (· = '0')).reverse := by
    unfold withoutZeros
    rw [← List.reverse_append, List.takeWhile_append_dropWhile, List.reverse_reverse]
  rw [hzeros] at hsplit
  refine ⟨(ds.reverse.takeWhile (· = '0')).reverse.length, ?_, ?_⟩
  · conv_lhs => rw [hsplit]
    rw [digitsValue_append, digitsValue_zeros, List.length_replicate, Nat.add_zero]
  · cases hcases : ds.reverse.dropWhile (· = '0') with
    | nil =>
        left
        unfold withoutZeros
        rw [hcases]
        rfl
    | cons c rest =>
        right
        have hc : c ≠ '0' := by
          have hne : ds.reverse.dropWhile (· = '0') ≠ [] := by
            rw [hcases]
            exact List.cons_ne_nil c rest
          have hhead := List.head_dropWhile_not _ hne
          simpa [hcases] using hhead
        have hdigit : isDigit c = true := by
          refine h c (List.mem_reverse.mp ?_)
          exact (List.dropWhile_sublist _).subset (by rw [hcases]; exact List.mem_cons_self ..)
        obtain ⟨hlt, hpos⟩ := digitsValue_singleton hdigit
        unfold withoutZeros
        rw [hcases, List.reverse_cons, digitsValue_append, List.length_singleton]
        have := hpos hc
        omega

-- ========================================================= what is kept

/-- The number that operands describe. -/
def exact (o : Operands) : ℚ := o.whole + o.fraction / (10 : ℚ) ^ o.places

/-- The operands have what they can hold of a decimal: the last eighteen
digits before the point, with a one before them where there are more, and the
first eighteen behind it. -/
structure Keeps (o : Operands) (w : Written) : Prop where
  whole : o.whole = if w.whole.length ≤ 18 then digitsValue w.whole
    else 10 ^ 18 + digitsValue w.whole % 10 ^ 18
  places : o.places = min 18 w.fraction.length
  fraction : o.fraction = digitsValue w.fraction / 10 ^ (w.fraction.length - 18)
  stripped : ∃ zeros, o.fraction = o.stripped * 10 ^ zeros ∧ (o.stripped = 0 ∨ o.stripped % 10 ≠ 0)

variable {w : Written} {o : Operands}

theorem keeps_ofDecimal (hnegative : w.negative = false) : (ofDecimal w.chars).Keeps w := by
  have hsplit := Function.splitPoint_chars w
  have hsigned : signed w.negative w.whole = w.whole := by
    rw [hnegative]
    rfl
  rw [hsigned] at hsplit
  have hwhole : w.chars.takeWhile (· ≠ '.') = w.whole := congrArg Prod.fst hsplit
  have hfraction : (w.chars.dropWhile (· ≠ '.')).drop 1 = w.fraction := congrArg Prod.snd hsplit
  have hkept : Digits (w.fraction.take 18) := fun c hc =>
    w.digits_fraction c (List.mem_of_mem_take hc)
  unfold ofDecimal
  simp only [hwhole, hfraction]
  constructor
  · by_cases hlong : w.whole.length ≤ 18
    · rw [if_pos hlong, if_pos hlong, Nat.sub_eq_zero_of_le hlong, List.drop_zero]
    · rw [if_neg hlong, if_neg hlong, digitsValue_drop w.digits_whole (Nat.le_of_not_le hlong)]
      rfl
  · exact List.length_take
  · exact digitsValue_take w.digits_fraction 18
  · exact digitsValue_withoutZeros hkept

/-- Where nothing is cut off the operands describe the decimal. -/
theorem Keeps.exact_eq (h : o.Keeps w) (hwhole : w.whole.length ≤ 18)
    (hfraction : w.fraction.length ≤ 18) : o.exact = w.numeral.exact := by
  have hkept := h.fraction
  rw [Nat.sub_eq_zero_of_le hfraction, pow_zero, Nat.div_one] at hkept
  unfold exact Numeral.exact Written.numeral
  rw [h.whole, if_pos hwhole, h.places, min_eq_right hfraction, hkept, digitsValue_append, zpow_neg,
    zpow_natCast]
  push_cast
  field_simp

-- ====================================================== finite numbers

variable {x : Float} {negative : Bool} {m : Magnitude}

/-- A sign makes no difference. -/
theorem ofNumber?_eq_of_read {y : Float} {negative' : Bool} (hx : read x = .finite negative m)
    (hy : read y = .finite negative' m) : ofNumber? y = ofNumber? x := by
  unfold ofNumber?
  rw [hx, hy]

/-- The double without its sign. -/
theorem exists_unsigned (h : read x = .finite negative m) :
    ∃ a, (a = x ∨ a = -x) ∧ read a = .finite false m := by
  cases negative with
  | false => exact ⟨x, Or.inl rfl, h⟩
  | true => exact ⟨-x, Or.inr rfl, read_neg h⟩

theorem ofNumber?_of_whole (h : read x = .finite negative m) {n : Nat} (hn : (n : ℚ) = m.exact)
    (hlt : n < 2 ^ 63) : ofNumber? x = some (ofWhole n) := by
  have hwhole := isWhole_of_exact hn
  have hfloor : m.floor = n := by
    have hexact := floor_eq_exact hwhole
    rw [← hn] at hexact
    exact_mod_cast hexact
  have htwo : twoTo 63 = 2 ^ 63 := rfl
  have hmax : maxWhole = 2 ^ 63 - 1 := rfl
  unfold ofNumber?
  rw [h]
  simp only [hfloor, hwhole, htwo, hmax]
  rw [if_pos ⟨trivial, le_of_lt hlt⟩, min_eq_left (by omega)]

/-- What is not a whole number, or too great, is taken from its text. -/
theorem ofNumber?_of_text (h : read x = .finite negative m) {a : Float}
    (ha : read a = .finite false m) (hn : ∀ n : Nat, (n : ℚ) = m.exact → 2 ^ 63 < n) :
    ofNumber? x = some (ofDecimal (text a).toList) := by
  have hcondition : ¬(m.isWhole = true ∧ m.floor ≤ twoTo 63) := by
    rintro ⟨hwhole, hle⟩
    have := hn m.floor (floor_eq_exact hwhole)
    have htwo : twoTo 63 = 2 ^ 63 := rfl
    omega
  unfold ofNumber?
  rw [h, text_of_read ha]
  simp only
  rw [if_neg hcondition]
  rfl

/-- A text that denotes the number, with either sign, is a numeric argument
with the same operands. -/
theorem numericArgument_of_denoted (h : read x = .finite negative m) {s : String}
    {negative' : Bool} {q : ℚ} (hs : denoted? (Text.trim s.toList) = some (negative', q))
    (hq : m.ReadFrom q) (rest : List Value) : ∃ y,
    Function.numericArgument (.string s :: rest) = .ok y ∧ ofNumber? y = ofNumber? x := by
  obtain ⟨y, hy, hread⟩ := ofText?_of_denoted (canonical_of_read h) hs hq
  refine ⟨y, ?_, ofNumber?_eq_of_read h hread⟩
  unfold Function.numericArgument
  simp only [hy]

/-- What the operands of a finite number are. A whole number below `2 ^ 63`
is taken as it is. A number that is not whole, or greater, is taken from its
shortest text, of which the operands keep what they can hold. The sign makes
no difference, nor does it whether the number comes as a text. -/
theorem operands_describe_magnitude (h : read x = .finite negative m) :
    (ofNumber? x).isSome = true ∧
    (∀ n : Nat, (n : ℚ) = m.exact → n < 2 ^ 63 → ofNumber? x = some (ofWhole n)) ∧
    ((∀ n : Nat, (n : ℚ) = m.exact → 2 ^ 63 < n) → ∃ a w,
      (a = x ∨ a = -x) ∧ ShortestText a m w ∧
      ofNumber? x = some (ofDecimal w.chars) ∧ (ofDecimal w.chars).Keeps w ∧
      (w.whole.length ≤ 18 → w.fraction.length ≤ 18 →
        (ofDecimal w.chars).exact = w.numeral.exact)) ∧
    ofNumber? (-x) = ofNumber? x ∧
    ∀ s rest negative' q, denoted? (Text.trim s.toList) = some (negative', q) → m.ReadFrom q →
      ∃ y, Function.numericArgument (.string s :: rest) = .ok y ∧ ofNumber? y = ofNumber? x := by
  have hfinite : isFinite x = true := isFinite_iff.mpr ⟨_, _, h⟩
  refine ⟨isSome_ofNumber?_iff.mpr hfinite, fun n hn hlt => ofNumber?_of_whole h hn hlt,
    fun hn => ?_, ofNumber?_eq_of_read h (read_neg h),
    fun s rest negative' q hs hq => numericArgument_of_denoted h hs hq rest⟩
  obtain ⟨a, ha, hread⟩ := exists_unsigned h
  obtain ⟨w, hw⟩ := exists_shortestText hread
  have hkeeps := keeps_ofDecimal hw.unsigned
  refine ⟨a, w, ha, hw, ?_, hkeeps, hkeeps.exact_eq⟩
  rw [← hw.chars]
  exact ofNumber?_of_text h hread hn

theorem operands_describe_magnitude_halves :
    ofNumber? (-2.5) = ofNumber? 2.5 ∧
    (∃ y, Function.numericArgument [.string " -2.50 "] = .ok y ∧ ofNumber? y = ofNumber? 2.5) ∧
    ∃ a m w, (a = 2.5 ∨ a = -2.5) ∧ ShortestText a m w ∧
      ofNumber? 2.5 = some (ofDecimal w.chars) := by
  have hread : read 2.5 = .finite false ⟨5629499534213120, -51⟩ := by decide +kernel
  have hexact : Magnitude.exact ⟨5629499534213120, -51⟩ = 5 / 2 := by
    norm_num [Magnitude.exact]
  have hfraction : ∀ n : Nat, (n : ℚ) = Magnitude.exact ⟨5629499534213120, -51⟩ →
      2 ^ 63 < n := by
    intro n hn
    rw [hexact, eq_div_iff (by norm_num)] at hn
    have htwice : n * 2 = 5 := by exact_mod_cast hn
    omega
  have hdenoted : denoted? (Text.trim " -2.50 ".toList)
      = some (true, (Numeral.mk 250 (-2)).exact) := rfl
  have hsame : (Numeral.mk 250 (-2)).exact = Magnitude.exact ⟨5629499534213120, -51⟩ := by
    rw [hexact]
    norm_num [Numeral.exact]
  obtain ⟨-, -, htext, hneg, hstring⟩ := operands_describe_magnitude hread
  obtain ⟨a, w, ha, hw, hoperands, -⟩ := htext hfraction
  exact ⟨hneg, hstring _ _ _ _ hdenoted (Or.inl hsame), a, _, w, ha, hw, hoperands⟩

/-- The operands of a number too small for eighteen fraction digits are those
of zero, which makes a difference where zero has a category of its own. The
number right above the greatest whole number that is taken as it is gets that
one's operands. -/
theorem operands_cut_off :
    (∃ m, read 1e-19 = .finite false m ∧ 0 < m.significand ∧
      text 1e-19 = "0.0000000000000000001" ∧
      ofNumber? 1e-19 = some ⟨0, 18, 0, 0⟩ ∧ exact ⟨0, 18, 0, 0⟩ = 0 ∧
      Function.pluralCategory cldr ["ar"] .cardinal 1e-19 = .ok .zero ∧
      ∃ rules, cldr .cardinal (Function.pluralLocale ["ar"]) = .ok rules ∧
        rules ⟨0, 19, 1, 1⟩ = .other) ∧
    ∃ m, read 9223372036854775808.0 = .finite false m ∧ m.exact = 2 ^ 63 ∧
      ofNumber? 9223372036854775808.0 = some (ofWhole (2 ^ 63 - 1)) := by
  refine ⟨⟨magnitude 1e-19, by decide +kernel, by decide +kernel, by decide +kernel,
    by decide +kernel, ?_, by decide +kernel, _, rfl, by decide +kernel⟩,
    ⟨2 ^ 52, 11⟩, by decide +kernel, ?_, by decide +kernel⟩
  · norm_num [exact]
  · norm_num [Magnitude.exact]

end MessageCatalog.Plural.Operands
