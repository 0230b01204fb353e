/-
What the function `number` makes of a number.

A finite number is first written with the greatest count of fraction
digits, or with its shortest digits if there is no such count (`base`).
Then only zeros at the end of the fraction come and go: the digits before
the point, the sign and what is denoted stay (`Respects`,
`fraction_digits_respected`).

The names of infinity and of what is not a number have no fraction, and
get one all the same where a least count is asked for. What comes out then
is no number any more, and in all other cases it is one
(`number_accepts_own_text`).
-/
import MessageCatalog.Function.Number
import MessageCatalog.Proofs.Decimal.Written

namespace MessageCatalog

namespace Function

open Decimal

-- ============================================================ the zeros

/-- What is dropped from the front is zeros, and it is only as many as are
allowed that keeps another zero from being dropped. -/
theorem exists_dropped (count : Nat) (s : List Char) : ∃ n ≤ count,
    s = List.replicate n '0' ++ dropZeros count s ∧
    (n < count → (dropZeros count s).head? ≠ some '0') := by
  induction count generalizing s with
  | zero =>
      refine ⟨0, Nat.le_refl 0, ?_, fun h => absurd h (Nat.not_lt_zero 0)⟩
      cases s <;> rfl
  | succ count ih =>
      cases s with
      | nil => exact ⟨0, Nat.zero_le _, rfl, fun _ => by simp [dropZeros]⟩
      | cons c rest =>
          by_cases hc : c = '0'
          · subst hc
            obtain ⟨n, hn, hsplit, hhead⟩ := ih rest
            refine ⟨n + 1, Nat.succ_le_succ hn, ?_, fun h => hhead (by omega)⟩
            rw [List.replicate_succ, List.cons_append, dropZeros, ← hsplit]
          · have hkept : dropZeros (count + 1) (c :: rest) = c :: rest := by
              simp [dropZeros, hc]
            exact ⟨0, Nat.zero_le _, hkept.symm, fun _ => by rw [hkept]; simpa using hc⟩

variable {least : Nat} {fraction : List Char}

/-- A fraction that is too short gets zeros; one that is long enough loses
zeros until it ends in another digit or would be too short. -/
theorem adjustFraction_cases (least : Nat) (fraction : List Char) :
    (fraction.length ≤ least ∧
      adjustFraction least fraction
        = fraction ++ List.replicate (least - fraction.length) '0') ∨
    (least < fraction.length ∧ ∃ n,
      fraction = adjustFraction least fraction ++ List.replicate n '0' ∧
      least ≤ (adjustFraction least fraction).length ∧
      (least < (adjustFraction least fraction).length →
        (adjustFraction least fraction).getLast? ≠ some '0')) := by
  by_cases hshort : fraction.length ≤ least
  · left
    refine ⟨hshort, ?_⟩
    unfold adjustFraction
    rw [Nat.sub_eq_zero_of_le hshort]
    simp [dropZeros]
  · right
    -- Zeros are dropped from the reversed fraction, so its head is the last digit.
    obtain ⟨n, hn, hsplit, hhead⟩ := exists_dropped (fraction.length - least) fraction.reverse
    generalize hkept : dropZeros (fraction.length - least) fraction.reverse = kept
      at hsplit hhead
    have hlength : fraction.length = n + kept.length := by
      have := congrArg List.length hsplit
      simpa using this
    have hadjusted : adjustFraction least fraction = kept.reverse := by
      have hpadding : least - kept.length = 0 := by omega
      simp [adjustFraction, hkept, hpadding]
    refine ⟨by omega, n, ?_, ?_, ?_⟩
    · rw [hadjusted, ← List.reverse_reverse fraction, hsplit]
      simp
    · rw [hadjusted, List.length_reverse]
      omega
    · rw [hadjusted, List.length_reverse, List.getLast?_reverse]
      intro hmore
      exact hhead (by omega)

theorem length_adjustFraction_ge (least : Nat) (fraction : List Char) :
    least ≤ (adjustFraction least fraction).length := by
  rcases adjustFraction_cases least fraction with ⟨-, heq⟩ | ⟨-, n, -, hge, -⟩
  · rw [heq, List.length_append, List.length_replicate]
    omega
  · exact hge

theorem length_adjustFraction_le {most : Nat} (hleast : least ≤ most)
    (hfraction : fraction.length ≤ most) : (adjustFraction least fraction).length ≤ most := by
  rcases adjustFraction_cases least fraction with ⟨hshort, heq⟩ | ⟨-, n, hsplit, -, -⟩
  · rw [heq, List.length_append, List.length_replicate]
    omega
  · have hlength := congrArg List.length hsplit
    rw [List.length_append] at hlength
    omega

/-- Digits beyond the least count do not end in a zero. -/
theorem getLast?_adjustFraction (h : least < (adjustFraction least fraction).length) :
    (adjustFraction least fraction).getLast? ≠ some '0' := by
  rcases adjustFraction_cases least fraction with ⟨hshort, heq⟩ | ⟨-, n, -, -, hlast⟩
  · rw [heq, List.length_append, List.length_replicate] at h
    omega
  · exact hlast h

theorem digits_adjustFraction (h : Digits fraction) : Digits (adjustFraction least fraction) := by
  rcases adjustFraction_cases least fraction with ⟨-, heq⟩ | ⟨-, n, hsplit, -, -⟩
  · rw [heq]
    exact h.append (digits_zeros _)
  · intro c hc
    refine h c ?_
    rw [hsplit]
    exact List.mem_append_left _ hc

/-- Zeros at the end of the digits, with as many more places, denote
nothing. -/
theorem exact_zeros (ds : List Char) (places n : Nat) :
    (Numeral.mk (digitsValue (ds ++ List.replicate n '0')) (-(places + n : Nat))).exact
      = (Numeral.mk (digitsValue ds) (-places)).exact := by
  have hten : (10 : ℚ) ≠ 0 := by norm_num
  unfold Numeral.exact
  rw [digitsValue_append, digitsValue_zeros, List.length_replicate]
  push_cast
  rw [neg_add, zpow_add₀ hten, zpow_neg, zpow_neg, zpow_natCast, zpow_natCast]
  field_simp
  ring

-- ============================================================ the text

/-- A text is split at its point. -/
theorem splitPoint_append {before : List Char} (h : '.' ∉ before) (after : List Char) :
    splitPoint (before ++ pointAnd after) = (before, after) := by
  have hbefore : ∀ c ∈ before, decide (c ≠ '.') = true := by
    intro c hc
    simp only [ne_eq, decide_not, Bool.not_eq_true', decide_eq_false_iff_not]
    rintro rfl
    exact h hc
  unfold splitPoint
  rw [List.takeWhile_append_of_pos hbefore, List.dropWhile_append_of_pos hbefore]
  cases after <;> simp [pointAnd]

theorem adjust_append {before : List Char} (h : '.' ∉ before) (least : Nat) (after : List Char) :
    adjust least (before ++ pointAnd after) = before ++ pointAnd (adjustFraction least after) := by
  unfold adjust
  rw [splitPoint_append h]
  simp only
  cases hadjusted : adjustFraction least after with
  | nil => simp [pointAnd]
  | cons d ds => rfl

/-- A written decimal with at least so many fraction digits. -/
def adjusted (least : Nat) (w : Written) : Written :=
  ⟨w.negative, w.whole, adjustFraction least w.fraction, w.whole_ne_nil, w.digits_whole,
    digits_adjustFraction w.digits_fraction⟩

theorem point_not_mem_whole (w : Written) : '.' ∉ signed w.negative w.whole := by
  have hwhole := w.digits_whole.point_not_mem
  unfold signed
  cases w.negative <;> simpa using hwhole

theorem chars_eq (w : Written) : w.chars = signed w.negative w.whole ++ pointAnd w.fraction := by
  unfold Written.chars signed
  cases w.negative <;> simp

theorem adjust_chars (least : Nat) (w : Written) :
    adjust least w.chars = (adjusted least w).chars := by
  rw [chars_eq, chars_eq, adjust_append (point_not_mem_whole w)]
  rfl

/-- Zeros at the end of a fraction denote nothing. -/
theorem exact_adjusted (least : Nat) (w : Written) :
    (adjusted least w).numeral.exact = w.numeral.exact := by
  unfold Written.numeral adjusted
  simp only
  rcases adjustFraction_cases least w.fraction with ⟨-, heq⟩ | ⟨-, n, hsplit, -, -⟩
  · rw [heq, List.length_append, List.length_replicate, ← List.append_assoc, exact_zeros]
  · generalize adjustFraction least w.fraction = kept at hsplit
    rw [hsplit, List.length_append, List.length_replicate, ← List.append_assoc, exact_zeros]

-- ======================================================== the function

/-- The text that zeros are added to and dropped from. -/
def base (most? : Option Nat) (x : Float) : String :=
  match most? with
  | none => text x
  | some most => fixed most x

/-- When the function gives a value, and which. -/
theorem number_eq_ok_iff {locales : List String} {options : Options} {args : List Value}
    {v : Value} : number locales options args = .ok v ↔ ∃ x least? most?,
      numericArgument args = .ok x ∧
      placesOption options "minimumFractionDigits" = .ok least? ∧
      placesOption options "maximumFractionDigits" = .ok most? ∧
      (∀ most ∈ most?, least?.getD 0 ≤ most) ∧
      v = .string (String.ofList (adjust (least?.getD 0) (base most? x).toList)) := by
  unfold number
  cases numericArgument args with
  | error e => simp [bind, Except.bind]
  | ok x =>
      cases placesOption options "minimumFractionDigits" with
      | error e => simp [bind, Except.bind]
      | ok least? =>
          cases placesOption options "maximumFractionDigits" with
          | error e => simp [bind, Except.bind]
          | ok most? =>
              cases most? with
              | none => simp [bind, Except.bind, base, eq_comm, pure, Except.pure]
              | some most =>
                  by_cases hle : most < least?.getD 0
                  · simp [bind, Except.bind, hle]
                  · have hle' : least?.getD 0 ≤ most := Nat.le_of_not_lt hle
                    simp [bind, Except.bind, hle, hle', base, eq_comm, pure, Except.pure]

-- ==================================================== finite numbers

/-- The numeral that the text is of. -/
def baseNumeral (most? : Option Nat) (m : Magnitude) : Numeral :=
  match most? with
  | none => shortest .upward m
  | some most => ⟨roundHalfEven (m.num * tenTo most) m.den, -most⟩

variable {x : Float} {negative : Bool} {m : Magnitude} {least? most? : Option Nat}

theorem exists_written_base (most? : Option Nat) (h : read x = .finite negative m) :
    ∃ w : Written, (base most? x).toList = w.chars ∧ w.negative = negative ∧
      (∀ most ∈ most?, w.fraction.length = most) ∧
      w.numeral.exact = (baseNumeral most? m).exact := by
  cases most? with
  | none =>
      obtain ⟨w, hchars, hnegative, hexact⟩ := exists_written_text h
      exact ⟨w, hchars, hnegative, fun _ hmost => absurd hmost (Option.not_mem_none _), hexact⟩
  | some most =>
      obtain ⟨w, hchars, hnegative, hlength, hnumeral⟩ := exists_written_fixed most h
      refine ⟨w, hchars, hnegative, ?_, congrArg Numeral.exact hnumeral⟩
      intro n hn
      rw [hlength]
      exact Option.some.inj hn

/-- A text with the counts of fraction digits that were asked for, which
otherwise shows what another text shows. -/
structure Respects (least : Nat) (most? : Option Nat) (shown text : List Char) : Prop where
  digits : Digits (splitPoint text).2
  least_le : least ≤ (splitPoint text).2.length
  le_most : ∀ most ∈ most?, (splitPoint text).2.length ≤ most
  no_needless_zero : least < (splitPoint text).2.length → (splitPoint text).2.getLast? ≠ some '0'
  no_bare_point : (splitPoint text).2 = [] → '.' ∉ text
  same_whole : (splitPoint text).1 = (splitPoint shown).1
  same_denoted : denoted? text = denoted? shown

theorem splitPoint_chars (w : Written) :
    splitPoint w.chars = (signed w.negative w.whole, w.fraction) := by
  rw [chars_eq, splitPoint_append (point_not_mem_whole w)]

theorem point_not_mem_chars (w : Written) (h : w.fraction = []) : '.' ∉ w.chars := by
  rw [chars_eq, h, pointAnd, List.append_nil]
  exact point_not_mem_whole w

/-- A written decimal that has no more fraction digits than are allowed
still has no more once it has enough. -/
theorem respects_adjusted {w : Written} (hmost : ∀ most ∈ most?, w.fraction.length = most)
    (hleast : ∀ most ∈ most?, least ≤ most) :
    Respects least most? w.chars (adjusted least w).chars := by
  have hsplit : splitPoint (adjusted least w).chars
      = (signed w.negative w.whole, adjustFraction least w.fraction) := splitPoint_chars _
  constructor
  · rw [hsplit]
    exact digits_adjustFraction w.digits_fraction
  · rw [hsplit]
    exact length_adjustFraction_ge least w.fraction
  · rw [hsplit]
    intro most hsome
    exact length_adjustFraction_le (hleast most hsome) (Nat.le_of_eq (hmost most hsome))
  · rw [hsplit]
    exact getLast?_adjustFraction
  · rw [hsplit]
    exact point_not_mem_chars (adjusted least w)
  · rw [hsplit, splitPoint_chars]
  · rw [denoted?_chars, denoted?_chars, exact_adjusted]
    rfl

/-- A finite number gets the counts of fraction digits that were asked for,
and the text denotes what was rounded to. -/
theorem fraction_digits_respected (locales : List String) {options : Options} {args : List Value}
    (hx : numericArgument args = .ok x) (hfinite : read x = .finite negative m)
    (hleast : placesOption options "minimumFractionDigits" = .ok least?)
    (hmost : placesOption options "maximumFractionDigits" = .ok most?)
    (hle : ∀ most ∈ most?, least?.getD 0 ≤ most) :
    ∃ text, number locales options args = .ok (.string text) ∧
      Respects (least?.getD 0) most? (base most? x).toList text.toList ∧
      (∀ most ∈ most?, (splitPoint (base most? x).toList).2.length = most) ∧
      denoted? text.toList = some (negative, (baseNumeral most? m).exact) := by
  obtain ⟨w, hchars, hnegative, hlength, hexact⟩ := exists_written_base most? hfinite
  have hrespects : Respects (least?.getD 0) most? w.chars (adjusted (least?.getD 0) w).chars :=
    respects_adjusted hlength hle
  refine ⟨String.ofList (adjust (least?.getD 0) (base most? x).toList), ?_, ?_, ?_, ?_⟩
  · exact number_eq_ok_iff.mpr ⟨x, least?, most?, hx, hleast, hmost, hle, rfl⟩
  · rw [String.toList_ofList, hchars, adjust_chars]
    exact hrespects
  · rw [hchars, splitPoint_chars]
    exact hlength
  · rw [String.toList_ofList, hchars, adjust_chars, hrespects.same_denoted, denoted?_chars, hnegative,
      hexact]

/-- Options that ask for one to three fraction digits. -/
def oneToThree : Options :=
  [("maximumFractionDigits", .number 3), ("minimumFractionDigits", .number 1)]

/-- Of the three zeros that the number is rounded to one is kept. -/
theorem fraction_digits_respected_rounded :
    ∃ text, number [] oneToThree [.number (-2.0003)] = .ok (.string text) ∧
      Respects 1 (some 3) "-2.000".toList text.toList ∧ denoted? text.toList = some (true, 2) := by
  have hread : read (-2.0003) = .finite true (magnitude (-2.0003)) := by decide +kernel
  have hleast : placesOption oneToThree "minimumFractionDigits" = .ok (some 1) := by
    decide +kernel
  have hmost : placesOption oneToThree "maximumFractionDigits" = .ok (some 3) := by
    decide +kernel
  have hle : ∀ most ∈ some 3, (some 1).getD 0 ≤ most := by decide
  have hbase : base (some 3) (-2.0003) = "-2.000" := by decide +kernel
  have hnumeral : baseNumeral (some 3) (magnitude (-2.0003)) = ⟨2000, -3⟩ := by decide +kernel
  have hx : numericArgument [.number (-2.0003)] = .ok (-2.0003) := rfl
  obtain ⟨text, hvalue, hrespects, -, hexact⟩ :=
    fraction_digits_respected [] hx hread hleast hmost hle
  rw [hbase] at hrespects
  refine ⟨text, hvalue, hrespects, ?_⟩
  rw [hexact, hnumeral, Numeral.exact]
  norm_num

-- ====================================================== reading back

theorem isBlank_of_isDigit {c : Char} (h : isDigit c = true) : Text.isBlank c = false := by
  obtain ⟨hlow, hhigh⟩ := toNat_of_isDigit h
  simp only [Text.isBlank, Bool.or_eq_false_iff, Bool.and_eq_false_iff, decide_eq_false_iff_not,
    beq_eq_false_iff_ne]
  omega

/-- A text without blanks stays as it is. -/
theorem trim_eq_self {s : List Char} (h : ∀ c ∈ s, Text.isBlank c = false) : Text.trim s = s := by
  -- The text is trimmed from both ends, the second time read backwards.
  have hdrop : ∀ t : List Char, (∀ c ∈ t, Text.isBlank c = false) →
      t.dropWhile Text.isBlank = t := by
    intro t ht
    cases t with
    | nil => rfl
    | cons c rest => simp [ht c (List.mem_cons_self ..)]
  have hreverse : ∀ c ∈ s.reverse, Text.isBlank c = false := fun c hc =>
    h c (List.mem_reverse.mp hc)
  unfold Text.trim
  rw [hdrop s h, hdrop s.reverse hreverse, List.reverse_reverse]

theorem not_blank_pointAnd {ds : List Char} (hds : Digits ds) :
    ∀ c ∈ pointAnd ds, Text.isBlank c = false := by
  intro c hc
  cases ds with
  | nil => exact absurd hc (List.not_mem_nil)
  | cons d rest =>
      rcases List.mem_cons.mp hc with rfl | hc
      · rfl
      · exact isBlank_of_isDigit (hds c hc)

theorem not_blank_chars (w : Written) : ∀ c ∈ w.chars, Text.isBlank c = false := by
  intro c hc
  have hbody : ∀ c ∈ w.whole ++ pointAnd w.fraction, Text.isBlank c = false := by
    intro c hc
    rcases List.mem_append.mp hc with hc | hc
    · exact isBlank_of_isDigit (w.digits_whole c hc)
    · exact not_blank_pointAnd w.digits_fraction c hc
  unfold Written.chars signed at hc
  cases hsign : w.negative with
  | false =>
      rw [hsign] at hc
      exact hbody c hc
  | true =>
      rw [hsign] at hc
      rcases List.mem_cons.mp hc with rfl | hc
      · rfl
      · exact hbody c hc

/-- A written decimal is a number. -/
theorem isSome_ofText?_chars (w : Written) : (ofText? w.chars).isSome = true := by
  unfold ofText?
  rw [w.splitSign_chars]
  simp only
  rw [w.unsigned?_chars]
  cases special? (w.whole ++ pointAnd w.fraction) <;> rfl

/-- The names of the numbers that are not finite. -/
def names : List (List Char) := ["NaN".toList, "inf".toList, "-inf".toList]

theorem read_of_not_finite (h : isFinite x = false) :
    read x = .notANumber ∨ ∃ negative, read x = .infinite negative := by
  cases hread : read x with
  | notANumber => exact Or.inl rfl
  | infinite negative => exact Or.inr ⟨negative, rfl⟩
  | finite negative m =>
      have hfinite : isFinite x = true := isFinite_iff.mpr ⟨negative, m, hread⟩
      rw [h] at hfinite
      exact absurd hfinite Bool.false_ne_true

theorem text_mem_names (h : isFinite x = false) : (text x).toList ∈ names := by
  unfold text Style.write
  rcases read_of_not_finite h with hread | ⟨negative, hread⟩
  · rw [hread]
    simp [names]
  · rw [hread]
    cases negative <;> simp [names, signed]

/-- There is nothing to round in what is not finite. -/
theorem base_mem_names (most? : Option Nat) (h : isFinite x = false) :
    (base most? x).toList ∈ names := by
  cases most? with
  | none => exact text_mem_names h
  | some most =>
      have hfixed : fixed most x = text x := by
        unfold fixed
        rcases read_of_not_finite h with hread | ⟨negative, hread⟩
        · rw [hread]
        · rw [hread]
      rw [base, hfixed]
      exact text_mem_names h

variable {name : List Char}

theorem point_not_mem_name (h : name ∈ names) : '.' ∉ name := by
  revert name
  decide

theorem not_blank_name (h : name ∈ names) : ∀ c ∈ name, Text.isBlank c = false := by
  have hall : ∀ name ∈ names, name.all (fun c => !Text.isBlank c) = true := by decide
  intro c hc
  have hc' := List.all_eq_true.mp (hall name h) c hc
  simpa using hc'

/-- A name is a number, and is none with a fraction behind it. -/
theorem isSome_ofText?_name (h : name ∈ names) (ds : List Char) :
    (ofText? (name ++ pointAnd ds)).isSome = true ↔ ds = [] := by
  simp only [names, List.mem_cons, List.not_mem_nil, or_false] at h
  cases ds with
  | nil =>
      refine iff_of_true ?_ rfl
      rcases h with rfl | rfl | rfl <;> rfl
  | cons d rest =>
      refine iff_of_false ?_ (List.cons_ne_nil d rest)
      have hnone : ofText? (name ++ pointAnd (d :: rest)) = none := by
        rcases h with rfl | rfl | rfl <;> rfl
      rw [hnone]
      exact Bool.false_ne_true

/-- A name has no point, so it gets one, and as many zeros as digits are
asked for. -/
theorem adjust_name (h : name ∈ names) (least : Nat) :
    adjust least name = name ++ pointAnd (List.replicate least '0') := by
  have happend := adjust_append (point_not_mem_name h) least []
  rw [pointAnd, List.append_nil] at happend
  rw [happend]
  simp [adjustFraction, dropZeros]

theorem not_blank_adjust_name (h : name ∈ names) (least : Nat) :
    ∀ c ∈ adjust least name, Text.isBlank c = false := by
  intro c hc
  rw [adjust_name h] at hc
  rcases List.mem_append.mp hc with hc | hc
  · exact not_blank_name h c hc
  · exact not_blank_pointAnd (digits_zeros least) c hc

variable {locales : List String} {options : Options} {args : List Value} {v : Value}

/-- With options that are accepted all that can fail is the argument. -/
theorem number_accepts_iff (hleast : placesOption options "minimumFractionDigits" = .ok least?)
    (hmost : placesOption options "maximumFractionDigits" = .ok most?)
    (hle : ∀ most ∈ most?, least?.getD 0 ≤ most) :
    (∃ v, number locales options args = .ok v) ↔ ∃ x, numericArgument args = .ok x := by
  constructor
  · rintro ⟨v, hv⟩
    obtain ⟨x, -, -, hx, -⟩ := number_eq_ok_iff.mp hv
    exact ⟨x, hx⟩
  · rintro ⟨x, hx⟩
    exact ⟨_, number_eq_ok_iff.mpr ⟨x, least?, most?, hx, hleast, hmost, hle, rfl⟩⟩

theorem numericArgument_text {s : List Char} (h : ∀ c ∈ s, Text.isBlank c = false) :
    (∃ x, numericArgument [.string (String.ofList s)] = .ok x) ↔ (ofText? s).isSome = true := by
  unfold numericArgument
  simp only [String.toList_ofList]
  rw [trim_eq_self h]
  cases ofText? s with
  | none => simp
  | some x => simp

/-- Zeros behind a number are a number, and behind the name of what has no
fraction they are none. -/
theorem isSome_ofText?_adjust (least : Nat) (most? : Option Nat) (x : Float) :
    (∃ y, numericArgument [.string (String.ofList (adjust least (base most? x).toList))] = .ok y) ↔
      isFinite x = true ∨ least = 0 := by
  cases hfinite : isFinite x with
  | true =>
      obtain ⟨negative, m, hread⟩ := isFinite_iff.mp hfinite
      obtain ⟨w, hchars, -⟩ := exists_written_base most? hread
      rw [hchars, adjust_chars, numericArgument_text (not_blank_chars _)]
      exact iff_of_true (isSome_ofText?_chars _) (Or.inl rfl)
  | false =>
      have hname := base_mem_names most? hfinite
      generalize (base most? x).toList = name at hname
      rw [numericArgument_text (not_blank_adjust_name hname least), adjust_name hname,
        isSome_ofText?_name hname]
      simp

/-- The function accepts its own text as a number, but for the names of
infinity and of what is not a number with zeros behind them. -/
theorem number_accepts_own_text (h : number locales options args = .ok v) :
    ∃ s x least?, v = .string s ∧ numericArgument args = .ok x ∧
      placesOption options "minimumFractionDigits" = .ok least? ∧
      ((∃ v', number locales options [.string s] = .ok v') ↔
        isFinite x = true ∨ least?.getD 0 = 0) := by
  obtain ⟨x, least?, most?, hx, hleast, hmost, hle, hv⟩ := number_eq_ok_iff.mp h
  refine ⟨_, x, least?, hv, hx, hleast, ?_⟩
  rw [number_accepts_iff hleast hmost hle]
  exact isSome_ofText?_adjust (least?.getD 0) most? x

/-- Options that ask for at least two fraction digits. -/
def twoOrMore : Options := [("minimumFractionDigits", .number 2)]

theorem number_accepts_own_text_thousand :
    ∃ s, number [] twoOrMore [.string " 1e3 "] = .ok (.string s) ∧
      ∃ v, number [] twoOrMore [.string s] = .ok v := by
  have hsome : (number [] twoOrMore [.string " 1e3 "]).toOption.isSome = true := by decide +kernel
  have hfinite : ((numericArgument [.string " 1e3 "]).toOption.map isFinite) = some true := by
    decide +kernel
  cases hvalue : number [] twoOrMore [.string " 1e3 "] with
  | error e =>
      rw [hvalue] at hsome
      exact absurd hsome (by simp [Except.toOption])
  | ok v =>
      obtain ⟨s, x, least?, rfl, hx, -, haccepts⟩ := number_accepts_own_text hvalue
      rw [hx] at hfinite
      exact ⟨s, rfl, haccepts.mpr (Or.inl (Option.some.inj hfinite))⟩

/-- Infinity with a fraction digit is no number. -/
theorem infinity_with_fraction :
    number [] [("minimumFractionDigits", .number 1)] [.string "inf"] = .ok (.string "inf.0") ∧
      ¬ ∃ v, number [] [("minimumFractionDigits", .number 1)] [.string "inf.0"] = .ok v := by
  refine ⟨rfl, ?_⟩
  rintro ⟨v, hv⟩
  have herror : number [] [("minimumFractionDigits", .number 1)] [.string "inf.0"]
      = .error (.unsupportedArgument "'inf.0' is not a number") := rfl
  rw [herror] at hv
  cases hv

end Function

end MessageCatalog
