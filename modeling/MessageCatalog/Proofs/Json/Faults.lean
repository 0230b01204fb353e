/-
Faults of documents and records lie in the text.

What holds of the readers of words (`Json.Places`) holds of everything that
is put together from them: documents, read or passed over, and records that
are read member by member, if it holds of what takes the members. The
inductions are on the fuel that the readers carry.
-/
import MessageCatalog.Proofs.Json.Places

namespace MessageCatalog.Json.Cursor

open Text

variable {α σ : Type} {text : List Char} {c : Cursor} {ch : Char} {rest : List Char}

namespace In

-- ======================================================= between words

theorem nextItem (h : In text c) (first : Bool) : Located text (Left text) (c.nextItem first) := by
  have hblank := h.skipBlanks
  unfold Cursor.nextItem
  dsimp only
  split
  · exact hblank.fault _
  · rename_i ch rest hrest
    split
    · exact hblank
    · split
      · exact hblank
      · split
        · have hcomma := (hblank.past hrest).skipBlanks
          split
          · exact hcomma.fault _
          · split
            · exact hcomma.faultAhead _
            · exact hcomma
        · exact hblank.faultAhead _

theorem nextName (h : In text c) (first : Bool) : Located text (Left text) (c.nextName first) := by
  have hblank := h.skipBlanks
  unfold Cursor.nextName
  dsimp only
  split
  · exact hblank.fault _
  · rename_i ch rest hrest
    have hpast := hblank.past hrest
    split
    · exact hblank
    · split
      · split
        · exact hpast.string.map fun _ hc => hc
        · exact hblank.faultAhead _
      · split
        · have hcomma := hpast.skipBlanks
          split
          · exact hcomma.fault _
          · rename_i ch' rest' hrest'
            split
            · exact (hcomma.past hrest').string.map fun _ hc => hc
            · split
              · exact hcomma.faultAhead _
              · exact hcomma.faultAhead _
        · exact hblank.faultAhead _

theorem colon (h : In text c) : Located text (In text) c.colon := by
  have hblank := h.skipBlanks
  unfold Cursor.colon
  dsimp only
  split
  · exact hblank.fault _
  · rename_i ch rest hrest
    split
    · exact hblank.past hrest
    · exact hblank.faultAhead _

theorem closeArray (h : In text c) : Located text (In text) c.closeArray := by
  have hblank := h.skipBlanks
  unfold Cursor.closeArray
  dsimp only
  split
  · exact hblank.fault _
  · rename_i ch rest hrest
    have hpast := hblank.past hrest
    split
    · exact hpast
    · split
      · split
        · exact hpast.skipBlanks.faultAhead _
        · exact hpast.skipBlanks.faultAhead _
      · exact hblank.faultAhead _

theorem closeObject (h : In text c) : Located text (In text) c.closeObject := by
  have hblank := h.skipBlanks
  unfold Cursor.closeObject
  dsimp only
  split
  · exact hblank.fault _
  · rename_i ch rest hrest
    split
    · exact hblank.past hrest
    · split
      · exact hblank.faultAhead _
      · exact hblank.faultAhead _

variable {q : α → Prop}

theorem faultInArray (h : In text c) (p : Problem) : Located text q (c.faultInArray p) := by
  have hblank := h.skipBlanks
  unfold Cursor.faultInArray
  dsimp only
  split
  · rename_i ch rest hrest
    have hpast := hblank.past hrest
    split
    · exact hpast.fault _
    · split
      · exact hpast.skipBlanks.fault _
      · exact hblank.fault _
  · exact hblank.fault _

theorem faultInObject (h : In text c) (p : Problem) : Located text q (c.faultInObject p) := by
  have hblank := h.skipBlanks
  unfold Cursor.faultInObject
  dsimp only
  split
  · rename_i ch rest hrest
    split
    · exact (hblank.past hrest).fault _
    · exact hblank.fault _
  · exact hblank.fault _

theorem finish (h : In text c) (x : α) : Located text (fun _ => True) (c.finish x) := by
  have hblank := h.skipBlanks
  unfold Cursor.finish
  dsimp only
  split
  · trivial
  · exact hblank.faultAhead _

-- =========================================================== documents

theorem scalar (h : In text c) (hrest : c.rest = ch :: rest) :
    Located text (Left text) (c.scalar ch rest) := by
  unfold Cursor.scalar
  split
  · exact (h.word _).map fun _ hc => hc
  · split
    · exact (h.word _).map fun _ hc => hc
    · split
      · exact (h.word _).map fun _ hc => hc
      · split
        · exact h.number
        · split
          · exact (h.past hrest).string.map fun _ hc => hc
          · exact h.faultAhead _

/-- Documents, items and members at once, for all fuel below a bound. -/
theorem documents (fuel : Nat) : ∀ {c : Cursor}, In text c →
    (∀ room, Located text (Left text) (c.json fuel room)) ∧
    (∀ room first, Located text (Left text) (c.items fuel room first)) ∧
    (∀ room first, Located text (Left text) (c.members fuel room first)) := by
  induction fuel with
  | zero =>
      intro c h
      exact ⟨fun _ => h.fault _, fun _ _ => h.fault _, fun _ _ => h.fault _⟩
  | succ fuel ih =>
      intro c h
      refine ⟨fun room => ?_, fun room first => ?_, fun room first => ?_⟩
      · have hblank := h.skipBlanks
        unfold Cursor.json
        dsimp only
        split
        · exact hblank.fault _
        · rename_i ch rest hrest
          have hpast := hblank.past hrest
          split
          · split
            · exact hblank.faultAhead _
            · exact ((ih hpast).2.1 _ _).map fun _ hc => hc
          · split
            · split
              · exact hblank.faultAhead _
              · exact ((ih hpast).2.2 _ _).map fun _ hc => hc
            · exact hblank.scalar hrest
      · unfold Cursor.items
        refine (h.nextItem first).bind ?_
        rintro ⟨more, c₁⟩ (h₁ : In text c₁)
        dsimp only
        split
        · refine ((ih h₁).1 room).bind ?_
          rintro ⟨j, c₂⟩ (h₂ : In text c₂)
          refine ((ih h₂).2.1 room false).bind ?_
          rintro ⟨js, c₃⟩ (h₃ : In text c₃)
          exact h₃
        · exact h₁.closeArray.bind fun c₂ h₂ => h₂
      · unfold Cursor.members
        refine (h.nextName first).bind ?_
        rintro ⟨name?, c₁⟩ (h₁ : In text c₁)
        dsimp only
        split
        · refine h₁.colon.bind fun c₂ h₂ => ?_
          refine ((ih h₂).1 room).bind ?_
          rintro ⟨j, c₃⟩ (h₃ : In text c₃)
          refine ((ih h₃).2.2 room false).bind ?_
          rintro ⟨ms, c₄⟩ (h₄ : In text c₄)
          exact h₄
        · exact h₁.closeObject.bind fun c₂ h₂ => h₂

theorem document (h : In text c) (room : Nat) : Located text (Left text) (c.document room) :=
  (documents c.fuel h).1 room

-- ============================================================ skipping

theorem skipScalar (h : In text c) (hrest : c.rest = ch :: rest) :
    Located text (In text) (c.skipScalar ch rest) := by
  unfold Cursor.skipScalar
  split
  · exact h.word _
  · split
    · exact h.word _
    · split
      · exact h.word _
      · split
        · exact (h.numberText _).map fun _ hc => hc.1
        · split
          · exact (h.past hrest).skipString
          · exact h.faultAhead _

/-- Documents, items and members that are passed over, for all fuel below a
bound. -/
theorem skipped (fuel : Nat) : ∀ {c : Cursor}, In text c →
    Located text (In text) (c.skipJson fuel) ∧
    (∀ first, Located text (In text) (c.skipItems fuel first)) ∧
    (∀ first, Located text (In text) (c.skipMembers fuel first)) := by
  induction fuel with
  | zero =>
      intro c h
      exact ⟨h.fault _, fun _ => h.fault _, fun _ => h.fault _⟩
  | succ fuel ih =>
      intro c h
      have hblank := h.skipBlanks
      refine ⟨?_, fun first => ?_, fun first => ?_⟩
      · unfold Cursor.skipJson
        dsimp only
        split
        · exact hblank.fault _
        · rename_i ch rest hrest
          have hpast := hblank.past hrest
          split
          · exact (ih hpast).2.1 true
          · split
            · exact (ih hpast).2.2 true
            · exact hblank.skipScalar hrest
      · unfold Cursor.skipItems
        dsimp only
        split
        · exact hblank.fault _
        · rename_i ch rest hrest
          have hpast := hblank.past hrest
          split
          · exact hpast
          · split
            · exact (ih hblank).1.bind fun c₁ h₁ => (ih h₁).2.1 false
            · split
              · exact (ih hpast).1.bind fun c₁ h₁ => (ih h₁).2.1 false
              · exact hblank.faultAhead _
      · unfold Cursor.skipMembers
        dsimp only
        split
        · exact hblank.fault _
        · rename_i ch rest hrest
          have hpast := hblank.past hrest
          split
          · exact hpast
          · split
            · have hname : In text (if first then c.skipBlanks
                  else (c.skipBlanks.past ch rest).skipBlanks) := by
                split
                · exact hblank
                · exact hpast.skipBlanks
              split
              · exact hname.fault _
              · rename_i ch' rest' hrest'
                split
                · refine (hname.past hrest').skipString.bind fun c₁ h₁ => ?_
                  refine h₁.colon.bind fun c₂ h₂ => ?_
                  exact (ih h₂).1.bind fun c₃ h₃ => (ih h₃).2.2 false
                · exact hname.faultAhead _
            · exact hblank.faultAhead _

theorem skip (h : In text c) : Located text (In text) c.skip := (skipped c.fuel h).1

-- ====================================================== wanted scalars

theorem wrongType (h : In text c) (expected : String) :
    Located text q (c.wrongType expected) := by
  have hblank := h.skipBlanks
  unfold Cursor.wrongType
  dsimp only
  split
  · exact hblank.fault _
  · rename_i ch rest hrest
    split
    · exact hblank.fault _
    · split
      · exact hblank.fault _
      · refine (hblank.scalar hrest).bind ?_
        rintro ⟨j, c₁⟩ (h₁ : In text c₁)
        exact h₁.fault _

theorem stringValue (h : In text c) (expected : String) :
    Located text (Left text) (c.stringValue expected) := by
  have hblank := h.skipBlanks
  unfold Cursor.stringValue
  dsimp only
  split
  · exact hblank.fault _
  · rename_i ch rest hrest
    split
    · exact (hblank.past hrest).string
    · exact hblank.wrongType _

-- ============================================================= records

theorem enter (h : In text c) (hrest : c.rest = ch :: rest) (room : Nat) :
    Located text (Left text) (c.enter room ch rest) := by
  unfold Cursor.enter
  split
  · exact h.faultAhead _
  · exact h.past hrest

theorem skipMember (h : In text c) (s : σ) : Located text (Left text) (c.skipMember s) := by
  unfold Cursor.skipMember
  refine h.colon.bind fun c₁ h₁ => ?_
  exact h₁.skip.bind fun c₂ h₂ => h₂

/-- Members, if each of them is taken with its faults in the text. -/
theorem eachMember {step : σ → String → Cursor → Except Fault (σ × Cursor)}
    (hstep : ∀ s name c, In text c → Located text (Left text) (step s name c)) (fuel : Nat)
    (first : Bool) (s : σ) (h : In text c) :
    Located text (Left text) (Cursor.eachMember step fuel first s c) := by
  induction fuel generalizing first s c with
  | zero => exact h.fault _
  | succ fuel ih =>
      unfold Cursor.eachMember
      refine (h.nextName first).bind ?_
      rintro ⟨name?, c₁⟩ (h₁ : In text c₁)
      dsimp only
      split
      · exact h₁
      · refine (hstep s _ c₁ h₁).bind ?_
        rintro ⟨s', c₂⟩ (h₂ : In text c₂)
        exact ih false s' h₂

/-- A record, if what is inside is taken with its faults in the text. -/
theorem record {ofObject ofArray : Nat → Cursor → Except Fault (α × Cursor)}
    (hobject : ∀ room c, In text c → Located text (Left text) (ofObject room c))
    (harray : ∀ room c, In text c → Located text (Left text) (ofArray room c))
    (h : In text c) (room : Nat) (expected : String) :
    Located text (Left text) (c.record room expected ofObject ofArray) := by
  have hblank := h.skipBlanks
  unfold Cursor.record
  dsimp only
  split
  · exact hblank.fault _
  · rename_i ch rest hrest
    split
    · refine (hblank.enter hrest room).bind ?_
      rintro ⟨room', c₁⟩ (h₁ : In text c₁)
      refine (hobject room' c₁ h₁).bind ?_
      rintro ⟨x, c₂⟩ (h₂ : In text c₂)
      exact h₂.closeObject.bind fun c₃ h₃ => h₃
    · split
      · refine (hblank.enter hrest room).bind ?_
        rintro ⟨room', c₁⟩ (h₁ : In text c₁)
        refine (harray room' c₁ h₁).bind ?_
        rintro ⟨x, c₂⟩ (h₂ : In text c₂)
        exact h₂.closeArray.bind fun c₃ h₃ => h₃
      · exact hblank.wrongType _

end In

end MessageCatalog.Json.Cursor
