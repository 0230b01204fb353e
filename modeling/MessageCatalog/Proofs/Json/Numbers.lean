/-
What the text of a number is read as.

With a number it matters what follows: a digit, a point or an exponent
would continue it. Any other text may follow, and changes neither the
number nor where it ends (`Cursor.number_steady`). A number is read in
parts, and every part ends at the first character that is not its own; so
what a part takes off a text it also takes off a longer text, as long as
what is added does not begin with a character of a number. `Steady` says
this of a reader, and readers that follow one another keep it
(`Steady.bind`).

A decimal is not always read as what was printed: the reader rounds more
than once where a number has many digits. `ReadsBack` says that a number
does come back, and can be evaluated. A number that comes back does so in
the midst of a text (`ReadsBack.reads`).
-/
import MessageCatalog.Proofs.Json.Words

namespace MessageCatalog.Json

variable {α β : Type}

/-- The text does not continue a number that ends before it. -/
def Ends (rest : List Char) : Prop :=
  ∀ ch ∈ rest.head?, ¬Decimal.isDigit ch ∧ ch ≠ '.' ∧ ch ≠ 'e' ∧ ch ≠ 'E'

/-- The reader takes `x` off a text and leaves `r` behind, wherever the
text stands and whatever follows it, unless that continues a number. -/
structure Reads (reader : Cursor → Except Fault (α × Cursor)) (text : List Char) (x : α)
    (r : List Char) : Prop where
  suffix : r <:+ text
  followed : ∀ rest, Ends rest → Takes reader (text ++ rest) x (r ++ rest)

theorem Reads.pure {text : List Char} (x : α) : Reads (fun c => .ok (x, c)) text x text :=
  ⟨List.suffix_refl _, fun _ _ place => ⟨place, rfl⟩⟩

theorem Reads.bind {first : Cursor → Except Fault (α × Cursor)}
    {next : α → Cursor → Except Fault (β × Cursor)} {text : List Char} {x : α} {r : List Char}
    {y : β} {s : List Char}
    (hfirst : Reads first text x r) (hnext : Reads (next x) r y s) :
    Reads (fun c => do let (x, c) ← first c; next x c) text y s := by
  refine ⟨hnext.suffix.trans hfirst.suffix, fun rest hrest place => ?_⟩
  obtain ⟨middle, h⟩ := hfirst.followed rest hrest place
  obtain ⟨after, h'⟩ := hnext.followed rest hrest middle
  exact ⟨after, by simp only [h]; exact h'⟩

/-- Wherever a reader takes something off a text, it does so. -/
def Steady (reader : Cursor → Except Fault (α × Cursor)) : Prop :=
  ∀ ⦃text place x r after⦄, reader ⟨text, place⟩ = .ok (x, ⟨r, after⟩) → Reads reader text x r

theorem Steady.pure (x : α) : Steady fun c => .ok (x, c) := by
  intro text place y r after h
  cases h
  exact .pure x

theorem Steady.bind {first : Cursor → Except Fault (α × Cursor)}
    {next : α → Cursor → Except Fault (β × Cursor)} (hfirst : Steady first)
    (hnext : ∀ x, Steady (next x)) : Steady (fun c => do let (x, c) ← first c; next x c) := by
  intro text place y s after h
  rcases hf : first ⟨text, place⟩ with fault | ⟨x, ⟨r, middle⟩⟩
  · simp only [hf] at h
    exact nomatch h
  · simp only [hf] at h
    exact (hfirst hf).bind (hnext x h)

/-- A character before the text is taken first. -/
theorem Reads.cons {reader next : Cursor → Except Fault (α × Cursor)} {ch : Char} {text : List Char}
    {x : α} {r : List Char}
    (hreader : ∀ rest place, reader ⟨ch :: rest, place⟩ = next ⟨rest, place.after ch⟩)
    (hnext : Reads next text x r) : Reads reader (ch :: text) x r := by
  refine ⟨hnext.suffix.trans (List.suffix_cons ..), fun rest hrest place => ?_⟩
  obtain ⟨after, h⟩ := hnext.followed rest hrest (place.after ch)
  exact ⟨after, (hreader _ place).trans h⟩

namespace Cursor

theorem digits_reads (text : List Char) (place : Place) :
    Reads (fun c => .ok c.digits) text (digitsFrom place text).1
      (digitsFrom place text).2.rest := by
  induction text generalizing place with
  | nil =>
      refine ⟨List.suffix_refl _, fun rest hrest place => ⟨place, ?_⟩⟩
      cases rest with
      | nil => rfl
      | cons ch rest =>
          have hdigit := (hrest ch rfl).1
          simp [digits, digitsFrom, hdigit]
  | cons ch text ih =>
      rw [digitsFrom]
      split
      · rename_i hdigit
        have hrec := ih (place.after ch)
        refine ⟨hrec.suffix.trans (List.suffix_cons ..), fun rest hrest place => ?_⟩
        obtain ⟨after, h⟩ := hrec.followed rest hrest (place.after ch)
        refine ⟨after, ?_⟩
        simp only [digits, Except.ok.injEq] at h
        simp [digits, digitsFrom, hdigit, h]
      · rename_i hdigit
        exact ⟨List.suffix_refl _,
          fun rest _ place => ⟨place, by simp [digits, digitsFrom, hdigit]⟩⟩

variable {atEnd : Problem}

theorem fraction_steady : Steady (fraction atEnd) := by
  intro text place f r after h
  unfold fraction at h
  split at h
  · rename_i text' heq
    cases heq
    have hdigits := digits_reads text' (place.after '.')
    rcases htaken : digitsFrom (place.after '.') text' with ⟨ds, c⟩
    simp only [htaken] at hdigits
    simp only [digits, past, htaken] at h
    cases ds with
    | nil => cases c with | mk rest _ => cases rest <;> cases h
    | cons d ds =>
        cases h
        refine ⟨hdigits.suffix.trans (List.suffix_cons ..), fun rest hrest place => ?_⟩
        obtain ⟨after, hmore⟩ := hdigits.followed rest hrest (place.after '.')
        refine ⟨after, ?_⟩
        simp only [Except.ok.injEq] at hmore
        simp [fraction, past, hmore]
  · rename_i hpoint
    cases h
    refine ⟨List.suffix_refl _, fun rest hrest place => ⟨place, ?_⟩⟩
    unfold fraction
    split
    · rename_i rest' heq
      cases text with
      | nil => exact absurd rfl (hrest '.' (by rw [show rest = _ from heq]; rfl)).2.1
      | cons ch text => cases heq; exact absurd rfl (hpoint _)
    · rfl

theorem whole_steady : Steady (whole atEnd) := by
  intro text place w r after h
  unfold whole at h
  split at h
  · cases h
  · rename_i text' heq
    cases heq
    -- a lone zero: no digit may follow
    cases text' with
    | nil =>
        cases h
        refine ⟨List.suffix_cons .., fun rest hrest place => ⟨place.after '0', ?_⟩⟩
        cases rest with
        | nil => rfl
        | cons ch rest => simp [whole, past, (hrest ch rfl).1]
    | cons d text' =>
        simp only at h
        split at h
        · cases h
        · rename_i hdigit
          cases h
          exact ⟨List.suffix_cons .., fun rest _ place =>
            ⟨place.after '0', by simp [whole, past, hdigit]⟩⟩
  · rename_i ch text' hzero heq
    cases heq
    split at h
    · rename_i hdigit
      have hdigits := digits_reads (ch :: text') place
      rw [show digitsFrom place (ch :: text') = (w, ⟨r, after⟩) from Except.ok.inj h] at hdigits
      refine ⟨hdigits.suffix, fun rest hrest place => ?_⟩
      obtain ⟨after, hmore⟩ := hdigits.followed rest hrest place
      refine ⟨after, ?_⟩
      rw [← hmore]
      simp [whole, hdigit]
    · cases h

theorem sign_reads {text : List Char} (h : text ≠ []) (place : Place) :
    Reads (fun c => .ok c.sign) text (sign ⟨text, place⟩).1 (sign ⟨text, place⟩).2.rest := by
  cases text with
  | nil => exact absurd rfl h
  | cons ch text =>
      unfold sign
      split
      · rename_i heq
        cases heq
        exact .cons (fun _ _ => rfl) (.pure _)
      · rename_i heq
        cases heq
        exact .cons (fun _ _ => rfl) (.pure _)
      · rename_i hplus hminus
        refine ⟨List.suffix_refl _, fun rest _ place => ⟨place, ?_⟩⟩
        split
        · rename_i heq
          cases heq
          exact absurd rfl (hplus _)
        · rename_i heq
          cases heq
          exact absurd rfl (hminus _)
        · rfl

theorem exponent_steady : Steady (exponent atEnd) := by
  intro text place e r after h
  unfold exponent at h
  split at h
  · rename_i ch text' heq
    cases heq
    split at h
    · rename_i he
      have hne : text' ≠ [] := by
        rintro rfl
        cases h
      have hsign := sign_reads hne (place.after ch)
      rcases hs : sign ⟨text', place.after ch⟩ with ⟨negative, ⟨text'', place''⟩⟩
      have hdigits := digits_reads text'' place''
      rcases htaken : digitsFrom place'' text'' with ⟨ds, c⟩
      simp only [hs] at hsign
      simp only [htaken] at hdigits
      simp only [past, hs, digits, htaken] at h
      cases ds with
      | nil => cases c with | mk rest _ => cases rest <;> cases h
      | cons d ds =>
          cases h
          refine ⟨hdigits.suffix.trans (hsign.suffix.trans (List.suffix_cons ..)),
            fun rest hrest place => ?_⟩
          obtain ⟨middle, hsigned⟩ := hsign.followed rest hrest (place.after ch)
          obtain ⟨after, hmore⟩ := hdigits.followed rest hrest middle
          refine ⟨after, ?_⟩
          simp only [Except.ok.injEq] at hsigned hmore
          simp [exponent, past, he, hsigned, hmore]
    · rename_i he
      cases h
      exact ⟨List.suffix_refl _, fun rest _ place => ⟨place, by simp [exponent, he]⟩⟩
  · rename_i heq
    cases heq
    cases h
    refine ⟨List.suffix_refl _, fun rest hrest place => ⟨place, ?_⟩⟩
    cases rest with
    | nil => rfl
    | cons ch rest =>
        have hend := hrest ch rfl
        simp [exponent, hend]

/-- What is behind the sign of a number. -/
theorem unsigned_steady (negative : Bool) : Steady fun c => do
    let (w, c) ← whole atEnd c
    let (f, c) ← c.fraction atEnd
    let (e, c) ← c.exponent atEnd
    return ((⟨negative, w, f, e⟩ : NumberText), c) :=
  Steady.bind whole_steady fun _ => Steady.bind fraction_steady fun _ =>
    Steady.bind exponent_steady fun _ => Steady.pure _

theorem numberText_steady : Steady (numberText atEnd) := by
  intro text place t r after h
  cases text with
  | nil => exact nomatch h
  | cons ch text =>
      by_cases hminus : ch = '-'
      · subst hminus
        exact .cons (fun _ _ => rfl) (unsigned_steady true h)
      · have hunsigned : ∀ rest place, numberText atEnd ⟨ch :: rest, place⟩ = do
            let (w, c) ← whole atEnd ⟨ch :: rest, place⟩
            let (f, c) ← c.fraction atEnd
            let (e, c) ← c.exponent atEnd
            return (⟨false, w, f, e⟩, c) := by
          intro rest place
          simp [numberText, hminus]
        rw [hunsigned] at h
        have hreads := unsigned_steady false h
        refine ⟨hreads.suffix, fun rest hrest place => ?_⟩
        obtain ⟨after, hmore⟩ := hreads.followed rest hrest place
        exact ⟨after, (hunsigned _ place).trans hmore⟩

/-- What a number text is worth does not depend on where it stands. -/
theorem number_steady : Steady number := by
  intro text place j r after h
  unfold number at h
  rcases ht : numberText .endOfValue ⟨text, place⟩ with fault | ⟨t, ⟨r', place'⟩⟩
  · rw [ht] at h
    exact nomatch h
  rw [ht] at h
  have hreads := numberText_steady ht
  simp only [bind, Except.bind] at h
  split at h
  · rename_i n hoverflow
    split at h
    · exact nomatch h
    · rename_i hzero
      cases h
      refine ⟨hreads.suffix, fun rest hrest place => ?_⟩
      obtain ⟨after, hmore⟩ := hreads.followed rest hrest place
      refine ⟨after, ?_⟩
      simp only [number, hmore, bind, Except.bind, hoverflow]
      exact if_neg hzero
  · rename_i hoverflow
    split at h
    · rename_i j' hj
      cases h
      refine ⟨hreads.suffix, fun rest hrest place => ?_⟩
      obtain ⟨after, hmore⟩ := hreads.followed rest hrest place
      exact ⟨after, by simp only [number, hmore, bind, Except.bind, hoverflow, hj]; rfl⟩
    · exact nomatch h

end Cursor

-- ================================================== numbers as printed

theorem isBlank_digit {c : Char} (h : c.isDigit = true) : Cursor.isBlank c = false := by
  unfold Cursor.isBlank
  by_contra hc
  simp only [Bool.not_eq_false, Bool.or_eq_true, decide_eq_true_eq] at hc
  rcases hc with ((rfl | rfl) | rfl) | rfl <;> exact absurd h (by decide)

/-- A text without a character that may stand between words. -/
def Unblank (text : List Char) : Prop := ∀ ch ∈ text, Cursor.isBlank ch = false

theorem unblank_of_all {text : List Char} (h : text.all (fun ch => !Cursor.isBlank ch) = true) :
    Unblank text := fun ch hch => by
  have hnot := List.all_eq_true.mp h ch hch
  rwa [Bool.not_eq_true'] at hnot

theorem unblank_digits (n : Nat) : Unblank (Decimal.digitChars n) := fun _ hc =>
  isBlank_digit (Nat.isDigit_of_mem_toDigits (by decide) (by decide) hc)

theorem unblank_append {a b : List Char} (ha : Unblank a) (hb : Unblank b) : Unblank (a ++ b) :=
  fun c hc => (List.mem_append.mp hc).elim (ha c) (hb c)

theorem unblank_cons {c : Char} {a : List Char} (hc : Cursor.isBlank c = false) (ha : Unblank a) :
    Unblank (c :: a) := by
  intro c' hc'
  rcases List.mem_cons.mp hc' with rfl | h
  · exact hc
  · exact ha c' h

theorem unblank_replicate (n : Nat) : Unblank (List.replicate n '0') := fun c hc => by
  rw [(List.mem_replicate.mp hc).2]
  rfl

theorem unblank_pointed (places : Nat) {digits : List Char} (h : Unblank digits) :
    Unblank (Decimal.pointed places digits) := by
  have hpadded := unblank_append (unblank_replicate (places + 1 - digits.length)) h
  exact unblank_append (fun c hc => hpadded c (List.mem_of_mem_take hc))
    (unblank_cons rfl fun c hc => hpadded c (List.mem_of_mem_drop hc))

theorem unblank_numeral (n : Decimal.Numeral) : Unblank (wireStyle.numeral n) := by
  unfold Decimal.Style.numeral
  split
  · unfold Decimal.Numeral.positional
    split
    · exact unblank_append (unblank_append (unblank_digits _) (unblank_replicate _))
        (unblank_of_all rfl)
    · exact unblank_pointed _ (unblank_digits _)
  · unfold Decimal.Numeral.scientific
    have hdigits := unblank_digits n.digits
    refine unblank_append ?_ (unblank_cons rfl ?_)
    · split
      · rename_i d heq
        rw [← heq]
        exact hdigits
      · exact unblank_append (fun c hc => hdigits c (List.mem_of_mem_take hc))
          (unblank_cons rfl fun c hc => hdigits c (List.mem_of_mem_drop hc))
    · split
      · exact unblank_cons rfl (unblank_digits _)
      · exact unblank_append (unblank_of_all rfl) (unblank_digits _)

theorem unblank_decimalChars (x : Float) : Unblank (decimalChars x) := by
  have hsigned : ∀ (negative : Bool) {text : List Char}, Unblank text →
      Unblank (Decimal.signed negative text) := by
    intro negative text h
    cases negative with
    | false => exact h
    | true => exact unblank_cons rfl h
  unfold decimalChars
  split
  · unfold Decimal.Style.write
    split
    · exact unblank_of_all rfl
    · exact hsigned _ (unblank_of_all rfl)
    · exact hsigned _ (unblank_numeral _)
  · exact unblank_of_all rfl

namespace Cursor

theorem skipBlanks_unblank {text : List Char} (h : Unblank text) (place : Place) :
    skipBlanks ⟨text, place⟩ = ⟨text, place⟩ := by
  cases text with
  | nil => rfl
  | cons ch text => exact skipBlanks_cons (h ch (List.mem_cons_self ..)) text place

theorem finish_eq_ok {c : Cursor} {x y : α} (h : c.finish x = .ok y) :
    x = y ∧ c.skipBlanks.rest = [] := by
  unfold finish at h
  dsimp only at h
  split at h
  · rename_i hrest
    cases h
    exact ⟨rfl, hrest⟩
  · exact nomatch h

end Cursor

open Cursor

-- ======================================================= read and back

/-- The text of a number is read as the number. -/
def ReadsBack (x : Float) : Prop := ofText (compact (.decimal x)) = .ok (.decimal x)

theorem readsBack_iff {x : Float} :
    ReadsBack x ↔ (ofText (compact (.decimal x))).toOption.map found = some (.decimal x) := by
  unfold ReadsBack
  generalize ofText (compact (.decimal x)) = result
  constructor
  · rintro rfl
    rfl
  · intro h
    rcases result with fault | j
    · exact nomatch h
    · cases j <;> cases h
      rfl

instance (x : Float) : Decidable (ReadsBack x) := decidable_of_iff _ readsBack_iff.symm

example : ReadsBack 1.5 := by decide +kernel

theorem ofText_ofList (text : List Char) :
    ofText (String.ofList text)
      = (json (2 * text.length + 2) maxNesting ⟨text, .start⟩ >>= fun p => p.2.finish p.1) := by
  unfold ofText
  rw [String.toList_ofList]
  rfl

theorem ok_of_bind {α β ε : Type} {x : Except ε α} {f : α → Except ε β} {b : β}
    (h : x >>= f = .ok b) : ∃ a, x = .ok a ∧ f a = .ok b := by
  cases x with
  | error => exact nomatch h
  | ok a => exact ⟨a, rfl, h⟩

theorem ok_of_map {α β ε : Type} {f : α → β} {e : Except ε α} {b : β} (h : e.map f = .ok b) :
    ∃ a, e = .ok a ∧ f a = b := by
  cases e with
  | error => exact nomatch h
  | ok a => exact ⟨a, rfl, Except.ok.inj h⟩

/-- What a scalar begins with decides what it is, so a decimal begins like
a number and is one. -/
theorem scalar_decimal {ch : Char} {rest : List Char} {c c' : Cursor} {x : Float}
    (h : scalar c ch rest = .ok (.decimal x, c')) :
    (ch = '-' ∨ Decimal.isDigit ch) ∧ number c = .ok (.decimal x, c') := by
  unfold scalar at h
  split at h
  · obtain ⟨_, -, heq⟩ := ok_of_map h
    exact nomatch heq
  split at h
  · obtain ⟨_, -, heq⟩ := ok_of_map h
    exact nomatch heq
  split at h
  · obtain ⟨_, -, heq⟩ := ok_of_map h
    exact nomatch heq
  split at h
  · rename_i hnumber
    exact ⟨hnumber, h⟩
  split at h
  · obtain ⟨_, -, heq⟩ := ok_of_map h
    exact nomatch heq
  · exact nomatch h

theorem json_decimal {fuel room : Nat} {ch : Char} {text : List Char} {place : Place} {x : Float}
    {c : Cursor} (hblank : isBlank ch = false)
    (h : json fuel room ⟨ch :: text, place⟩ = .ok (.decimal x, c)) :
    (ch = '-' ∨ Decimal.isDigit ch) ∧ number ⟨ch :: text, place⟩ = .ok (.decimal x, c) := by
  cases fuel with
  | zero => exact nomatch h
  | succ fuel =>
      rw [json, skipBlanks_cons hblank] at h
      dsimp only at h
      split at h
      · split at h
        · exact nomatch h
        · obtain ⟨_, -, heq⟩ := ok_of_map h
          exact nomatch heq
      split at h
      · split at h
        · exact nomatch h
        · obtain ⟨_, -, heq⟩ := ok_of_map h
          exact nomatch heq
      · exact scalar_decimal h

/-- A number that is read back begins like a number, and is read up to the
end of its text. -/
theorem ReadsBack.reads {x : Float} (h : ReadsBack x) :
    (∃ ch text, decimalChars x = ch :: text ∧ (ch = '-' ∨ Decimal.isDigit ch)) ∧
      Reads Cursor.number (decimalChars x) (.decimal x) [] := by
  have hunblank := unblank_decimalChars x
  unfold ReadsBack compact at h
  rw [ofText_ofList] at h
  change (json (2 * (decimalChars x).length + 2) maxNesting ⟨decimalChars x, .start⟩ >>= _) = _ at h
  generalize decimalChars x = text at h hunblank
  cases text with
  | nil => exact nomatch h
  | cons ch text =>
      rcases hjson : json (2 * (ch :: text).length + 2) maxNesting ⟨ch :: text, .start⟩
        with fault | ⟨j, c⟩
      · rw [hjson] at h
        exact nomatch h
      rw [hjson] at h
      obtain ⟨rfl, hrest⟩ := finish_eq_ok h
      obtain ⟨hch, hnumber⟩ := json_decimal (hunblank ch (List.mem_cons_self ..)) hjson
      have hreads := number_steady hnumber
      have hleft : c.rest = [] := by
        have hc : Unblank c.rest := fun a ha => hunblank a (hreads.suffix.mem ha)
        rw [show c = ⟨c.rest, c.place⟩ from rfl, skipBlanks_unblank hc] at hrest
        exact hrest
      rw [hleft] at hreads
      exact ⟨⟨ch, text, rfl, hch⟩, hreads⟩

/-- What begins a number is no other character. -/
theorem ne_of_number {ch other : Char} (h : ch = '-' ∨ Decimal.isDigit ch)
    (hother : ¬(other = '-' ∨ Decimal.isDigit other)) : ch ≠ other := by
  rintro rfl
  exact hother h

theorem begins_number {ch : Char} (h : ch = '-' ∨ Decimal.isDigit ch) : Begins ch := by
  refine ⟨?_, ne_of_number h (by decide)⟩
  have hspace := ne_of_number h (show ¬(' ' = '-' ∨ Decimal.isDigit ' ') by decide)
  have htab := ne_of_number h (show ¬('\t' = '-' ∨ Decimal.isDigit '\t') by decide)
  have hline := ne_of_number h (show ¬('\n' = '-' ∨ Decimal.isDigit '\n') by decide)
  have hreturn := ne_of_number h (show ¬('\r' = '-' ∨ Decimal.isDigit '\r') by decide)
  simp [isBlank, hspace, htab, hline, hreturn]

end MessageCatalog.Json
