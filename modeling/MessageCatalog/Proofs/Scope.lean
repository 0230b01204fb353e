/-
Scopes that grow from one another.

Scopes are made one after another, each by putting a map inside one of
those that are there already; so they form a tree, and many of them may
share the outer part of their chains. What can be looked up in a scope is
read off these steps alone: its chain has the maps of the steps that lead
to it (`layers`), and a name means what it means in the map that was put
inside last among those that have it (`Innermost`).

# One step, then all of them

A step puts a scope behind those that are there and touches none of them
(`Grown.grow`); the induction is on the steps, with the scopes that they
start from left open. A look-up walks the chain from the inside and stops
at the first hit, while all visible variables are put together from the
outside; for every chain both come to the same (`mem_flatten_iff`).
-/
import MessageCatalog.Scope

namespace MessageCatalog

namespace Scope

-- ============================================================ one scope

/-- In the first of the maps that have the name it has the value. -/
def Innermost (maps : List (Dictionary Value)) (name : String) (v : Value) : Prop :=
  ∃ inner map outer, maps = inner ++ map :: outer ∧ Dictionary.get? name map = some v ∧
    ∀ m ∈ inner, Dictionary.get? name m = none

variable {s : Scope} {name : String} {v : Value}

theorem get?_eq_some_iff : s.get? name = some v ↔ Innermost s.frames name v :=
  List.findSome?_eq_some_iff

theorem contains_iff : s.contains name = true ↔ ∃ map ∈ s.frames, name ∈ Dictionary.names map := by
  simp only [contains, get?, List.isSome_findSome?, List.any_eq_true, Dictionary.isSome_get?_iff]

/-- All visible variables are a dictionary: no name stands there twice. -/
theorem ordered_flatten (s : Scope) : s.flatten.Ordered := by
  unfold flatten
  induction s.frames with
  | nil => exact Dictionary.ordered_nil
  | cons frame outer ih =>
      rw [List.foldr_cons]
      exact Dictionary.ordered_override ih frame

/-- A variable is visible with the value that a look-up gives. -/
theorem mem_flatten_iff : (name, v) ∈ s.flatten ↔ s.get? name = some v := by
  rw [← get?_flatten]
  exact ⟨Dictionary.get?_of_mem (ordered_flatten s), Dictionary.mem_of_get?⟩

theorem mem_names_flatten_iff : name ∈ Dictionary.names s.flatten ↔ s.contains name = true := by
  rw [← Dictionary.isSome_get?_iff, get?_flatten]
  exact Iff.rfl

-- =============================================================== steps

/-- A step: a map is put inside the scope with a number. A number that no
scope has stands for the empty scope, as zero does. -/
structure Step where
  parent : Nat
  pairs : List (String × Value)

/-- The map of a step; of several values under one name the last counts. -/
def Step.map (step : Step) : Dictionary Value := Dictionary.ofList step.pairs

/-- The scopes behind one more step. -/
def grow (scopes : List Scope) (step : Step) : List Scope :=
  scopes ++ [(scopes.getD step.parent empty).push step.pairs]

/-- All scopes that steps make, by their numbers. Before the first step
there is the empty scope. -/
def grown (steps : List Step) : List Scope := steps.foldl grow [empty]

/-- The maps in the chain of the scope with a number, the one put inside
last first: that of the step that made the scope, then those of its parent.
The step at `k` makes the scope with the number `k + 1`. -/
def layers (steps : List Step) : Nat → List (Dictionary Value)
  | 0 => []
  | k + 1 =>
    match steps[k]? with
    | none => []
    | some step => step.map :: if _h : step.parent ≤ k then layers steps step.parent else []

variable {steps : List Step} {step : Step} {scopes : List Scope}

/-- Later steps put nothing into a chain that is there. -/
theorem layers_append (further : List Step) {i : Nat} (hi : i ≤ steps.length) :
    layers (steps ++ further) i = layers steps i := by
  induction i using Nat.strongRecOn with
  | ind i ih =>
      cases i with
      | zero => rw [layers, layers]
      | succ k =>
          have hstep : (steps ++ further)[k]? = steps[k]? := List.getElem?_append_left hi
          rw [layers, layers, hstep]
          cases steps[k]? with
          | none => rfl
          | some step =>
              by_cases hparent : step.parent ≤ k
              · simp only [dif_pos hparent]
                rw [ih step.parent (Nat.lt_succ_of_le hparent) (by omega)]
              · simp only [dif_neg hparent]

/-- Each scope has the chain that the steps have made. -/
structure Grown (scopes : List Scope) (steps : List Step) : Prop where
  length : scopes.length = steps.length + 1
  frames : ∀ i s, scopes[i]? = some s → s.frames = layers steps i

theorem grown_empty : Grown [empty] [] := by
  refine ⟨rfl, fun i s hs => ?_⟩
  cases i with
  | zero =>
      cases hs
      rw [layers]
      rfl
  | succ i => simp at hs

namespace Grown

/-- The parent of the next scope has the chain that its number says. -/
theorem frames_parent (h : Grown scopes steps) (parent : Nat) :
    (scopes.getD parent empty).frames
      = if _h : parent ≤ steps.length then layers steps parent else [] := by
  rw [List.getD_eq_getElem?_getD]
  by_cases hparent : parent ≤ steps.length
  · have hlt : parent < scopes.length := by
      rw [h.length]
      omega
    rw [dif_pos hparent, List.getElem?_eq_getElem hlt, Option.getD_some]
    exact h.frames parent _ (List.getElem?_eq_getElem hlt)
  · have hnone : scopes[parent]? = none := by
      rw [List.getElem?_eq_none_iff, h.length]
      omega
    rw [dif_neg hparent, hnone]
    rfl

/-- One step more. -/
theorem grow (h : Grown scopes steps) (step : Step) :
    Grown (Scope.grow scopes step) (steps ++ [step]) := by
  refine ⟨by simp [Scope.grow, h.length], fun i s hs => ?_⟩
  unfold Scope.grow at hs
  by_cases hi : i < scopes.length
  · -- a scope that was there
    rw [List.getElem?_append_left hi] at hs
    rw [layers_append [step] (by have := h.length; omega)]
    exact h.frames i s hs
  · -- the scope that the step has made
    rw [List.getElem?_append_right (by omega), List.getElem?_singleton] at hs
    split at hs
    · cases hs
      have hlast : i = steps.length + 1 := by
        have := h.length
        omega
      have hstep : (steps ++ [step])[steps.length]? = some step := by simp
      subst hlast
      rw [layers, hstep]
      show Dictionary.ofList step.pairs :: (scopes.getD step.parent empty).frames = _
      rw [h.frames_parent]
      by_cases hparent : step.parent ≤ steps.length
      · simp only [dif_pos hparent]
        rw [layers_append [step] hparent]
        rfl
      · simp only [dif_neg hparent]
        rfl
    · cases hs

/-- All further steps. The induction is on them; the steps before are those
of the scopes that they start from. -/
theorem foldl (h : Grown scopes steps) (further : List Step) :
    Grown (further.foldl Scope.grow scopes) (steps ++ further) := by
  induction further generalizing scopes steps with
  | nil =>
      rw [List.append_nil]
      exact h
  | cons step rest ih =>
      rw [List.append_cons]
      exact ih (h.grow step)

end Grown

theorem grown_grown (steps : List Step) : Grown (grown steps) steps := grown_empty.foldl steps

/-- Steps leave the scopes that are there as they are. -/
theorem prefix_foldl (scopes : List Scope) (further : List Step) :
    scopes <+: further.foldl grow scopes := by
  induction further generalizing scopes with
  | nil => exact List.prefix_refl scopes
  | cons step rest ih => exact (List.prefix_append scopes _).trans (ih (grow scopes step))

-- ============================================================== layers

/-- Scopes are layered maps. Of the scopes that any steps make, each gives
a name the value that it has in the last map of its chain that has the name,
and no value if no map has it; its visible variables are exactly the names
that it contains, once each, with the values that look-ups give; its depth
is the number of maps; and it stays the same scope whatever further steps
are made, on it, on its parents or beside it. -/
theorem layered_maps (steps further : List Step) (i : Fin (steps.length + 1)) :
    ∃ s, (grown steps)[i.val]? = some s ∧
      (∀ name v, s.get? name = some v ↔ Innermost (layers steps i) name v) ∧
      (∀ name, s.contains name = true ↔ ∃ map ∈ layers steps i, name ∈ Dictionary.names map) ∧
      s.flatten.Ordered ∧
      (∀ name, name ∈ Dictionary.names s.flatten ↔ s.contains name = true) ∧
      (∀ name v, (name, v) ∈ s.flatten ↔ s.get? name = some v) ∧
      s.depth = (layers steps i).length ∧
      (grown (steps ++ further))[i.val]? = some s := by
  have hgrown : Grown (grown steps) steps := grown_grown steps
  have hlt : i.val < (grown steps).length := by
    rw [hgrown.length]
    exact i.isLt
  have hs : (grown steps)[i.val]? = some (grown steps)[i.val] := List.getElem?_eq_getElem hlt
  have hframes := hgrown.frames i.val _ hs
  refine ⟨_, hs, fun name v => ?_, fun name => ?_, ordered_flatten _,
    fun name => mem_names_flatten_iff, fun name v => mem_flatten_iff, ?_, ?_⟩
  · rw [get?_eq_some_iff, hframes]
  · rw [contains_iff, hframes]
  · rw [depth, hframes]
  · obtain ⟨more, hmore⟩ := prefix_foldl (grown steps) further
    have happend : grown (steps ++ further) = grown steps ++ more := by
      rw [hmore, grown, grown, List.foldl_append]
    rw [happend, List.getElem?_append_left hlt]
    exact hs

end Scope

end MessageCatalog
