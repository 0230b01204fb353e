/-
What the words of a printed text are read as.

Wherever a printed string or a mark stands, and whatever follows it, it
is read one way (`Takes`). A character stands in a string either as it is
or behind a backslash (`escapeChar_cases`), and in both cases one step of
the reader takes it (`stringBody_escape`, by induction on the
characters).
-/
import Mathlib.Tactic.IntervalCases
import MessageCatalog.Json.Reader

namespace MessageCatalog.Json

/-- Wherever the text stands, the reader takes `x` off it and leaves
`rest`. -/
def Takes {α : Type} (reader : Cursor → Except Fault (α × Cursor)) (text : List Char) (x : α)
    (rest : List Char) : Prop :=
  ∀ place, ∃ after, reader ⟨text, place⟩ = .ok (x, ⟨rest, after⟩)

namespace Cursor

-- ============================================================= strings

theorem escaped_control {c : Char} (h : c.toNat < 32) (rest : List Char) :
    Takes escaped ('u' :: '0' :: '0' :: Nat.digitChar (c.toNat / 16)
      :: Nat.digitChar (c.toNat % 16) :: rest) c rest := by
  intro place
  have hc : c = Char.ofNat c.toNat := (Char.ofNat_toNat c).symm
  generalize c.toNat = n at h hc
  subst hc
  interval_cases n <;> exact ⟨_, rfl⟩

/-- How a character stands in a string: as it is, or behind a backslash
in a form that is read as the character. -/
theorem escapeChar_cases (c : Char) :
    (escapeChar c = [c] ∧ c ≠ '\x22' ∧ c ≠ '\\' ∧ ¬ c.toNat < 32) ∨
      ∃ form, escapeChar c = '\\' :: form ∧ ∀ rest, Takes escaped (form ++ rest) c rest := by
  unfold escapeChar
  split
  · subst_vars; exact .inr ⟨_, rfl, fun rest place => ⟨_, rfl⟩⟩
  split
  · subst_vars; exact .inr ⟨_, rfl, fun rest place => ⟨_, rfl⟩⟩
  split
  · subst_vars; exact .inr ⟨_, rfl, fun rest place => ⟨_, rfl⟩⟩
  split
  · subst_vars; exact .inr ⟨_, rfl, fun rest place => ⟨_, rfl⟩⟩
  split
  · subst_vars; exact .inr ⟨_, rfl, fun rest place => ⟨_, rfl⟩⟩
  split
  · subst_vars; exact .inr ⟨_, rfl, fun rest place => ⟨_, rfl⟩⟩
  split
  · subst_vars; exact .inr ⟨_, rfl, fun rest place => ⟨_, rfl⟩⟩
  split
  · rename_i h
    exact .inr ⟨_, rfl, fun rest => escaped_control h rest⟩
  · rename_i hquote hbackslash _ _ _ _ _ h
    exact .inl ⟨rfl, hquote, hbackslash, h⟩

theorem escape_length (cs : List Char) : cs.length ≤ (escape cs).length := by
  induction cs with
  | nil => exact Nat.le_refl _
  | cons c cs ih =>
      have hc : 1 ≤ (escapeChar c).length := by
        rcases escapeChar_cases c with ⟨h, -⟩ | ⟨form, h, -⟩ <;> simp [h]
      show _ ≤ (escapeChar c ++ escape cs).length
      rw [List.length_append, List.length_cons]
      omega

theorem stringBody_escape (cs rest : List Char) {fuel : Nat} (hfuel : cs.length < fuel)
    (taken : List Char) :
    Takes (stringBody fuel taken) (escape cs ++ '\x22' :: rest)
      (String.ofList (taken.reverse ++ cs)) rest := by
  intro place
  induction cs generalizing fuel taken place with
  | nil =>
      cases fuel with
      | zero => exact absurd hfuel (Nat.not_lt_zero _)
      | succ fuel => exact ⟨_, by rw [List.append_nil]; rfl⟩
  | cons c cs ih =>
      cases fuel with
      | zero => exact absurd hfuel (Nat.not_lt_zero _)
      | succ fuel =>
          have hnext := ih (Nat.lt_of_succ_lt_succ hfuel) (c :: taken)
          rw [List.reverse_cons, List.append_assoc] at hnext
          show ∃ after, stringBody (fuel + 1) taken
            ⟨escapeChar c ++ escape cs ++ '\x22' :: rest, place⟩ = _
          rw [List.append_assoc]
          rcases escapeChar_cases c with ⟨hform, hquote, hbackslash, hcontrol⟩ | ⟨form, hform, htakes⟩
          · obtain ⟨after, hnext⟩ := hnext (place.after c)
            refine ⟨after, ?_⟩
            rw [hform, List.singleton_append, stringBody]
            simp only [if_neg hquote, if_neg hbackslash, if_neg hcontrol]
            exact hnext
          · obtain ⟨middle, hescaped⟩ := htakes (escape cs ++ '\x22' :: rest) (place.after '\\')
            obtain ⟨after, hnext⟩ := hnext middle
            refine ⟨after, ?_⟩
            rw [hform, List.cons_append, stringBody]
            simp only [past, hescaped]
            exact hnext

/-- A string is read as what was quoted. -/
theorem string_quote (s : String) (rest : List Char) :
    Takes string (escape s.toList ++ '\x22' :: rest) s rest := by
  intro place
  have hfuel : s.toList.length < (escape s.toList ++ '\x22' :: rest).length + 1 := by
    rw [List.length_append]
    exact Nat.lt_succ_of_le (Nat.le_add_right_of_le (escape_length _))
  obtain ⟨after, h⟩ := stringBody_escape s.toList rest hfuel [] place
  refine ⟨after, ?_⟩
  rw [List.reverse_nil, List.nil_append, String.ofList_toList] at h
  exact h

-- =============================================================== marks

theorem skipBlanks_cons {ch : Char} (h : isBlank ch = false) (text : List Char) (place : Place) :
    skipBlanks ⟨ch :: text, place⟩ = ⟨ch :: text, place⟩ := by
  simp [skipBlanks, skipBlanksFrom, h]

/-- What may begin a document. -/
def Begins (ch : Char) : Prop := isBlank ch = false ∧ ch ≠ ']'

/-- Before an item there is nothing or a comma. -/
theorem nextItem_item (first : Bool) {ch : Char} (h : Begins ch) (text : List Char) :
    Takes (nextItem first) ((if first then [] else [',']) ++ ch :: text) true (ch :: text) := by
  intro place
  cases first with
  | true =>
      refine ⟨place, ?_⟩
      simp only [if_true, List.nil_append, nextItem, skipBlanks_cons h.1, if_neg h.2]
  | false =>
      refine ⟨place.after ',', ?_⟩
      have hcomma : isBlank ',' = false := by decide
      simp only [Bool.false_eq_true, if_false, List.singleton_append, nextItem,
        skipBlanks_cons hcomma, past, skipBlanks_cons h.1, if_neg h.2]
      rfl

/-- Before a name there is nothing or a comma. -/
theorem nextName_name (first : Bool) (name : String) (text : List Char) :
    Takes (nextName first) ((if first then [] else [',']) ++ quote name ++ text) (some name)
      text := by
  have hquote : isBlank '\x22' = false := by decide
  have hcomma : isBlank ',' = false := by decide
  intro place
  cases first with
  | true =>
      obtain ⟨after, hstring⟩ := string_quote name text (place.after '\x22')
      refine ⟨after, ?_⟩
      rw [quote, if_pos rfl, List.nil_append, List.cons_append, List.append_assoc,
        List.singleton_append, nextName, skipBlanks_cons hquote]
      dsimp only [past]
      rw [if_neg (by decide), if_pos rfl, if_pos rfl, hstring]
      rfl
  | false =>
      obtain ⟨after, hstring⟩ := string_quote name text ((place.after ',').after '\x22')
      refine ⟨after, ?_⟩
      rw [quote, if_neg (by decide), List.singleton_append, List.cons_append, List.cons_append,
        List.append_assoc, List.singleton_append, nextName, skipBlanks_cons hcomma]
      dsimp only [past]
      rw [if_neg (by decide), if_neg (by decide), if_pos rfl, skipBlanks_cons hquote]
      dsimp only [past]
      rw [if_pos rfl, hstring]
      rfl

theorem colon_cons (text : List Char) (place : Place) :
    colon ⟨':' :: text, place⟩ = .ok ⟨text, place.after ':'⟩ := rfl

end Cursor

end MessageCatalog.Json
