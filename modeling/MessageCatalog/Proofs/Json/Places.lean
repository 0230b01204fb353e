/-
Faults lie in the text.

The readers of words carry the place at which what is left of a text
begins. This place is the one so many bytes behind the start of the text as
have been taken (`Cursor.In`), each reader passes that on to the cursor that
it leaves, and if it finds a fault it places it at some byte of the text
(`Located`): behind what has been taken, behind the first byte of the next
character, or within the four bytes of an escape.

# Numbers

A number may be out of range because of its exponent, before the last of
the exponent's digits has been read. Digits take one byte each, so the
places behind them are counted back from the place behind the last one
(`In.digits`), and this is what the readers of numbers hand on.
-/
import Mathlib
import MessageCatalog.Json.Record

namespace MessageCatalog.Json

open Text

variable {α β : Type} {text : List Char}

-- ============================================================== bytes

@[simp] theorem byteLength_nil : byteLength [] = 0 := rfl

@[simp] theorem byteLength_cons (ch : Char) (rest : List Char) :
    byteLength (ch :: rest) = ch.utf8Size + byteLength rest := rfl

@[simp] theorem byteLength_append (a b : List Char) :
    byteLength (a ++ b) = byteLength a + byteLength b := by
  induction a with
  | nil => simp
  | cons ch rest ih =>
      rw [List.cons_append, byteLength_cons, byteLength_cons, ih, Nat.add_assoc]

theorem bytesOn_zero (place : Place) (text : List Char) :
    Cursor.bytesOn place text 0 = place := by
  cases text <;> rfl

/-- The bytes of what stands before are passed character by character. -/
theorem bytesOn_append (place : Place) (before rest : List Char) (n : Nat) :
    Cursor.bytesOn place (before ++ rest) (byteLength before + n)
      = Cursor.bytesOn (before.foldl Place.after place) rest n := by
  induction before generalizing place with
  | nil =>
      rw [byteLength_nil, Nat.zero_add]
      rfl
  | cons ch before ih =>
      have hpos := ch.utf8Size_pos
      have hleft : ch.utf8Size + byteLength before + n - ch.utf8Size = byteLength before + n := by
        omega
      rw [List.cons_append, byteLength_cons, Cursor.bytesOn, if_neg (by omega), if_pos (by omega),
        hleft, ih, List.foldl_cons]

/-- The place is at some byte of the text, or at its end. -/
def InText (text : List Char) (p : Place) : Prop :=
  ∃ n ≤ byteLength text, p = Cursor.bytesOn .start text n

/-- What a reader gives is as wanted, or else a fault at a place in the
text. -/
def Located (text : List Char) (q : α → Prop) : Except Fault α → Prop
  | .ok x => q x
  | .error f => ∃ p, f.place = some p ∧ InText text p

variable {q : α → Prop} {q' : β → Prop}

theorem Located.bind {r : Except Fault α} {next : α → Except Fault β} (h : Located text q r)
    (hnext : ∀ x, q x → Located text q' (next x)) : Located text q' (r >>= next) := by
  cases r with
  | ok x => exact hnext x h
  | error f => exact h

theorem Located.map {r : Except Fault α} {f : α → β} (h : Located text q r)
    (hf : ∀ x, q x → q' (f x)) : Located text q' (r.map f) := by
  cases r with
  | ok x => exact hf x h
  | error f => exact h

namespace Cursor

/-- The cursor is in the text: what is left is the end of the text, and its
place is the one behind the rest. -/
def In (text : List Char) (c : Cursor) : Prop :=
  ∃ before, text = before ++ c.rest ∧ c.place = before.foldl Place.after .start

/-- The cursor that a reader leaves is in the text. -/
def Left (text : List Char) (r : α × Cursor) : Prop := In text r.2

variable {c : Cursor} {ch : Char} {rest : List Char}

theorem in_start (text : List Char) : In text (start text) := ⟨[], rfl, rfl⟩

namespace In

-- ============================================================ a cursor

/-- The places so many bytes on from the cursor. -/
theorem bytesOn (h : In text c) {n : Nat} (hn : n ≤ byteLength c.rest) :
    InText text (Cursor.bytesOn c.place c.rest n) := by
  obtain ⟨before, htext, hplace⟩ := h
  refine ⟨byteLength before + n, ?_, ?_⟩
  · rw [htext, byteLength_append]
    omega
  · rw [htext, bytesOn_append, hplace]

theorem place (h : In text c) : InText text c.place := by
  have hzero := h.bytesOn (Nat.zero_le _)
  rwa [bytesOn_zero] at hzero

/-- The place behind the first byte of the next character. -/
theorem ahead (h : In text c) : InText text c.ahead := by
  have hplace := h.place
  unfold Cursor.ahead
  split
  · exact hplace
  · rename_i rest hrest
    have hone := h.bytesOn (n := 1) (by rw [hrest, byteLength_cons]; exact Nat.le_add_right 1 _)
    rw [hrest, Cursor.bytesOn, if_neg (by decide), if_pos (by decide)] at hone
    rwa [show 1 - '\n'.utf8Size = 0 from rfl, bytesOn_zero] at hone
  · rename_i ch rest hline hrest
    have hpos := ch.utf8Size_pos
    have hone := h.bytesOn (n := 1) (by rw [hrest, byteLength_cons]; omega)
    rw [hrest, Cursor.bytesOn, if_neg (by decide)] at hone
    split at hone
    · have hsize : ch.utf8Size = 1 := by omega
      rw [hsize, Nat.sub_self, bytesOn_zero, Place.after, if_neg hline, hsize] at hone
      exact hone
    · exact hone

theorem fault (h : In text c) (p : Problem) : Located text q (c.fault p) := ⟨_, rfl, h.place⟩

theorem faultAhead (h : In text c) (p : Problem) : Located text q (c.faultAhead p) :=
  ⟨_, rfl, h.ahead⟩

/-- Behind the next character. -/
theorem past (h : In text c) (hrest : c.rest = ch :: rest) : In text (c.past ch rest) := by
  obtain ⟨before, htext, hplace⟩ := h
  refine ⟨before ++ [ch], ?_, ?_⟩
  · rw [htext, hrest, List.append_assoc]
    rfl
  · rw [List.foldl_append, ← hplace]
    rfl

theorem skipBlanksFrom {place : Place} (h : In text ⟨rest, place⟩) :
    In text (skipBlanksFrom place rest) := by
  induction rest generalizing place with
  | nil => exact h
  | cons ch rest ih =>
      rw [Cursor.skipBlanksFrom]
      split
      · exact ih (h.past rfl)
      · exact h

theorem skipBlanks (h : In text c) : In text c.skipBlanks := h.skipBlanksFrom

theorem word (h : In text c) (letters : List Char) : Located text (In text) (c.word letters) := by
  induction letters generalizing c with
  | nil => exact h
  | cons w ws ih =>
      unfold Cursor.word
      split
      · exact h.fault _
      · rename_i ch rest hrest
        split
        · exact ih (h.past hrest)
        · exact h.faultAhead _

-- ============================================================ numbers

/-- Behind each of so many bytes before the cursor there is a place in the
text, in the line of the cursor. -/
def Back (text : List Char) (count : Nat) (c : Cursor) : Prop :=
  ∀ n ≤ count, InText text ⟨c.place.line, c.place.column - n⟩

/-- A character of one byte that ends no line is one column. -/
theorem after_ascii (hle : ch ≤ '\x7f') (hline : ch ≠ '\n') (place : Place) :
    place.after ch = ⟨place.line, place.column + 1⟩ := by
  have hsize : ch.utf8Size = 1 := Char.utf8Size_eq_one_iff.mpr hle
  rw [Place.after, if_neg hline, hsize]

theorem after_digit (h : Decimal.isDigit ch = true) (place : Place) :
    place.after ch = ⟨place.line, place.column + 1⟩ := by
  have hbounds : '0' ≤ ch ∧ ch ≤ '9' := by simpa [Decimal.isDigit] using h
  refine after_ascii (Char.le_trans hbounds.2 (by decide)) ?_ place
  rintro rfl
  exact absurd h (by decide)

/-- Digits take one byte each. -/
theorem digitsFrom {place : Place} (h : In text ⟨rest, place⟩) :
    In text (digitsFrom place rest).2 ∧
      (digitsFrom place rest).2.place
        = ⟨place.line, place.column + (digitsFrom place rest).1.length⟩ ∧
      Back text (digitsFrom place rest).1.length (digitsFrom place rest).2 := by
  induction rest generalizing place with
  | nil =>
      refine ⟨h, rfl, fun n hn => ?_⟩
      obtain rfl := Nat.le_zero.mp hn
      exact h.place
  | cons ch rest ih =>
      rw [Cursor.digitsFrom]
      split
      · rename_i hdigit
        obtain ⟨hin, hplace, hback⟩ := @ih (place.after ch) (h.past rfl)
        cases hdigits : Cursor.digitsFrom (place.after ch) rest with
        | mk ds c =>
            rw [hdigits, after_digit hdigit] at hplace
            rw [hdigits] at hin hback
            have hback' : Back text ds.length c := hback
            refine ⟨hin, ?_, fun n hn => ?_⟩
            · rw [hplace, List.length_cons, Nat.add_right_comm, Nat.add_assoc]
            · have hn' : n ≤ ds.length + 1 := hn
              by_cases hall : n = ds.length + 1
              · have hcolumn : place.column + 1 + ds.length - n = place.column := by omega
                rw [hplace]
                simp only [hcolumn]
                exact h.place
              · exact hback' n (by omega)
      · refine ⟨h, rfl, fun n hn => ?_⟩
        obtain rfl := Nat.le_zero.mp hn
        exact h.place

theorem digits (h : In text c) : In text c.digits.2 ∧ Back text c.digits.1.length c.digits.2 :=
  ⟨h.digitsFrom.1, h.digitsFrom.2.2⟩

theorem fraction (h : In text c) (atEnd : Problem) :
    Located text (Left text) (c.fraction atEnd) := by
  unfold Cursor.fraction
  split
  · rename_i rest hrest
    have hdigits := (h.past hrest).digits.1
    split
    · rename_i c' hc'
      rw [hc'] at hdigits
      split
      · exact hdigits.fault _
      · exact hdigits.faultAhead _
    · rename_i ds c' hc'
      rw [hc'] at hdigits
      exact hdigits
  · exact h

theorem sign (h : In text c) : In text c.sign.2 := by
  unfold Cursor.sign
  split
  · rename_i rest hrest
    exact h.past hrest
  · rename_i rest hrest
    exact h.past hrest
  · exact h

/-- The digits of an exponent are right before the cursor. -/
def BehindExponent (text : List Char) (r : Option (Bool × List Char) × Cursor) : Prop :=
  In text r.2 ∧ ∀ negative ds, r.1 = some (negative, ds) → Back text ds.length r.2

theorem exponent (h : In text c) (atEnd : Problem) :
    Located text (BehindExponent text) (c.exponent atEnd) := by
  unfold Cursor.exponent
  split
  · rename_i ch rest hrest
    split
    · have hsign := (h.past hrest).sign
      cases hcs : (c.past ch rest).sign with
      | mk negative c' =>
          rw [hcs] at hsign
          have hdigits := hsign.digits
          dsimp only
          split
          · rename_i c'' hc''
            rw [hc''] at hdigits
            split
            · exact hdigits.1.fault _
            · exact hdigits.1.faultAhead _
          · rename_i ds c'' hc''
            rw [hc''] at hdigits
            refine ⟨hdigits.1, fun negative' ds' heq => ?_⟩
            cases heq
            exact hdigits.2
    · exact ⟨h, fun _ _ heq => nomatch heq⟩
  · exact ⟨h, fun _ _ heq => nomatch heq⟩

theorem whole (h : In text c) (atEnd : Problem) : Located text (Left text) (c.whole atEnd) := by
  unfold Cursor.whole
  split
  · exact h.fault _
  · rename_i rest hrest
    have hzero := h.past hrest
    dsimp only
    split
    · split
      · exact hzero.faultAhead _
      · exact hzero
    · exact hzero
  · split
    · exact h.digits.1
    · exact h.faultAhead _

/-- The digits of the exponent of a number, if it has one, are right before
the cursor. -/
def BehindNumber (text : List Char) (r : NumberText × Cursor) : Prop :=
  BehindExponent text (r.1.exponent, r.2)

theorem numberText (h : In text c) (atEnd : Problem) :
    Located text (BehindNumber text) (c.numberText atEnd) := by
  unfold Cursor.numberText
  split
  rename_i negative c₀ hminus
  have h₀ : In text c₀ := by
    split at hminus
    · rename_i rest hrest
      cases hminus
      exact h.past hrest
    · cases hminus
      exact h
  refine (h₀.whole atEnd).bind ?_
  rintro ⟨w, c₁⟩ (h₁ : In text c₁)
  refine (h₁.fraction atEnd).bind ?_
  rintro ⟨f, c₂⟩ (h₂ : In text c₂)
  refine (h₂.exponent atEnd).bind ?_
  rintro ⟨e, c₃⟩ h₃
  exact h₃

theorem exponentOverflow?_le {t : NumberText} {n : Nat} (h : exponentOverflow? t = some n) :
    ∃ negative ds, t.exponent = some (negative, ds) ∧ n ≤ ds.length := by
  unfold exponentOverflow? at h
  split at h
  · rename_i negative ds hexponent
    have hmem := List.mem_of_find?_eq_some h
    rw [List.mem_range] at hmem
    exact ⟨negative, ds, hexponent, by omega⟩
  · cases h

theorem number (h : In text c) : Located text (Left text) c.number := by
  unfold Cursor.number
  refine (h.numberText .endOfValue).bind ?_
  rintro ⟨t, c'⟩ ⟨hin, hback⟩
  dsimp only
  split
  · rename_i n hn
    obtain ⟨negative, ds, hexponent, hle⟩ := exponentOverflow?_le hn
    split
    · rw [hexponent]
      exact ⟨_, rfl, hback negative ds hexponent _ (Nat.sub_le ds.length n)⟩
    · exact hin
  · split
    · exact hin
    · exact hin.fault _

-- ============================================================= strings

theorem byteLength_take_le (n : Nat) (text : List Char) :
    byteLength (text.take n) ≤ byteLength text := by
  conv_rhs => rw [← List.take_append_drop n text]
  rw [byteLength_append]
  exact Nat.le_add_right _ _

theorem after_hexValue {n : Nat} (h : hexValue? ch = some n) (place : Place) :
    place.after ch = ⟨place.line, place.column + 1⟩ := by
  have hline : ch ≠ '\n' := by
    rintro rfl
    have hnone : hexValue? '\n' = none := by decide
    rw [hnone] at h
    cases h
  refine after_ascii ?_ hline place
  unfold hexValue? at h
  split at h
  · rename_i hbounds
    exact Char.le_trans hbounds.2 (by decide)
  · split at h
    · rename_i hbounds
      exact Char.le_trans hbounds.2 (by decide)
    · split at h
      · rename_i hbounds
        exact Char.le_trans hbounds.2 (by decide)
      · cases h

theorem hexEscape (h : In text c) : Located text (Left text) c.hexEscape := by
  unfold Cursor.hexEscape
  split
  · exact ⟨_, rfl, h.bytesOn (le_refl _)⟩
  · rename_i hbytes
    have hfour : InText text (Cursor.bytesOn c.place c.rest 4) := by
      have := byteLength_take_le 4 c.rest
      exact h.bytesOn (by omega)
    dsimp only
    split
    · rename_i a b d e rest hrest
      split
      · rename_i ha hb hd he
        -- four characters of one byte each
        have hpast := (((h.past hrest).past rfl).past rfl).past rfl
        simp only [Cursor.past, after_hexValue ha, after_hexValue hb, after_hexValue hd,
          after_hexValue he] at hpast
        exact hpast
      · exact ⟨_, rfl, hfour⟩
    · exact ⟨_, rfl, hfour⟩

theorem secondHalf (h : In text c) (first : Nat) :
    Located text (Left text) (c.secondHalf first) := by
  unfold Cursor.secondHalf
  split
  · exact h.fault _
  · rename_i rest hrest
    have hslash := h.past hrest
    dsimp only
    split
    · exact hslash.fault _
    · rename_i rest' hrest'
      refine (hslash.past hrest').hexEscape.bind ?_
      rintro ⟨second, c'⟩ (hc' : In text c')
      dsimp only
      split
      · exact hc'
      · exact hc'.fault _
    · exact hslash.faultAhead _
  · exact h.faultAhead _

theorem escaped (h : In text c) : Located text (Left text) c.escaped := by
  unfold Cursor.escaped
  split
  · exact h.fault _
  · rename_i rest hrest
    refine (h.past hrest).hexEscape.bind ?_
    rintro ⟨n, c'⟩ (hc' : In text c')
    dsimp only
    split
    · exact hc'.fault _
    · split
      · exact hc'.secondHalf n
      · exact hc'
  · rename_i ch rest _ hrest
    dsimp only
    split
    · exact h.past hrest
    · exact h.faultAhead _

theorem stringBody (h : In text c) (fuel : Nat) (taken : List Char) :
    Located text (Left text) (c.stringBody fuel taken) := by
  induction fuel generalizing taken c with
  | zero => exact h.fault _
  | succ fuel ih =>
      unfold Cursor.stringBody
      split
      · exact h.fault _
      · rename_i ch rest hrest
        have hpast := h.past hrest
        split
        · exact hpast
        · split
          · refine hpast.escaped.bind ?_
            rintro ⟨e, c'⟩ (hc' : In text c')
            exact ih hc' _
          · split
            · exact hpast.fault _
            · exact ih hpast _

theorem string (h : In text c) : Located text (Left text) c.string := h.stringBody _ _

theorem skipStringBody (h : In text c) (fuel : Nat) :
    Located text (In text) (c.skipStringBody fuel) := by
  induction fuel generalizing c with
  | zero => exact h.fault _
  | succ fuel ih =>
      unfold Cursor.skipStringBody
      split
      · exact h.fault _
      · rename_i ch rest hrest
        have hpast := h.past hrest
        split
        · exact hpast
        · split
          · dsimp only
            split
            · exact hpast.fault _
            · rename_i rest' hrest'
              refine (hpast.past hrest').hexEscape.bind ?_
              rintro ⟨_, c'⟩ (hc' : In text c')
              exact ih hc'
            · rename_i e rest' _ hrest'
              split
              · exact ih (hpast.past hrest')
              · exact hpast.faultAhead _
          · split
            · exact h.fault _
            · exact ih hpast

theorem skipString (h : In text c) : Located text (In text) c.skipString := h.skipStringBody _

end In

end Cursor

end MessageCatalog.Json
