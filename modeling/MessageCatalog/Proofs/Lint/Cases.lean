/-
Cases that the linter says are never chosen.

The linter points at two kinds of cases: those with a wrong number of
keys, and those behind a case whose keys are the defaults of the
selectors. A catalog without them formats every message as before
(`pruned_formats_alike`).

# Why they are dead

A case with a wrong number of keys fits no values. The default of a
selector is accepted whatever the value is, so a case whose keys are the
defaults fits all values (`fits_of_sameKeys`) and nothing behind it is
looked at. Deleting both kinds therefore leaves the first case that fits
where it is (`find?_kept`), and a selection without them is equivalent to
the selection (`equivalent_pruned`).
-/
import MessageCatalog.Proofs.Catalog
import MessageCatalog.Proofs.Resolve.Equivalent

namespace MessageCatalog

namespace Lint

-- ============================================================= pruning

/-- Whether a finding says that the case with an index is never chosen. -/
def Finding.condemns (index : Nat) : Finding → Bool
  | .caseKeyArity i _ _ => i == index
  | .unreachableCase i => i == index
  | _ => false

/-- The cases from an index on that no finding condemns. -/
def kept (findings : List Finding) : (index : Nat) → List Case → List Case
  | _, [] => []
  | index, c :: rest =>
    if findings.any (Finding.condemns index) then kept findings (index + 1) rest
    else c :: kept findings (index + 1) rest

end Lint

/-- A selection without the cases that the linter condemns. -/
def Selection.pruned (s : Selection) : Selection :=
  { s with cases := Lint.kept (Lint.selectionFindings s) 0 s.cases }

/-- A message without the cases that the linter condemns. -/
def Message.pruned : Message → Message
  | .pattern p => .pattern p
  | .select s => .select s.pruned

/-- A catalog without the cases that the linter condemns. -/
def Catalog.pruned (c : Catalog) : Catalog := c.mapMessages Message.pruned

namespace Lint

-- ============================================================= indices

/-- What is kept from an index on depends on what is said about the indices
from there on. -/
theorem kept_congr {fs gs : List Finding} {index : Nat}
    (h : ∀ i, index ≤ i → fs.any (Finding.condemns i) = gs.any (Finding.condemns i))
    (cases : List Case) : kept fs index cases = kept gs index cases := by
  induction cases generalizing index with
  | nil => rfl
  | cons c rest ih =>
      have hrest := @ih (index + 1) fun i hi => h i (by omega)
      rw [kept, kept, h index (Nat.le_refl _), hrest]

/-- The findings on cases from an index on condemn none before it. -/
theorem any_condemns_caseFindings {i index : Nat} (h : i < index) (defaults : List Literal)
    (caught : Bool) (cases : List Case) :
    (caseFindings defaults index caught cases).any (Finding.condemns i) = false := by
  have hne : (index == i) = false := beq_false_of_ne (by omega)
  induction cases generalizing index caught with
  | nil =>
      unfold caseFindings
      split <;> rfl
  | cons c rest ih =>
      have hrest := fun caught => @ih (index + 1) (by omega) caught (beq_false_of_ne (by omega))
      unfold caseFindings
      split
      · rw [List.any_cons, hrest, Bool.or_false]
        exact hne
      · split
        · rw [List.any_cons, hrest, Bool.or_false]
          exact hne
        · exact hrest _

-- ================================================================ fits

open Resolve

/-- Selectors and keys are matched one by one. -/
theorem fits_cons (q : Literal × Value) (rest : List (Literal × Value)) (key : Literal)
    (keys : List Literal) (p : Pattern) :
    Case.fits (q :: rest) ⟨key :: keys, p⟩
      = (accepts q.1 q.2 key && Case.fits rest ⟨keys, p⟩) := by
  have hlength : (keys.length + 1 == rest.length + 1) = (keys.length == rest.length) := by simp
  unfold Case.fits
  rw [List.length_cons, List.length_cons, List.zip_cons_cons, List.all_cons, hlength,
    Bool.and_left_comm]

/-- The case of the defaults fits all values. -/
theorem fits_of_sameKeys {resolved : List (Literal × Value)} {c : Case}
    (h : sameKeys c.keys (resolved.map Prod.fst) = true) : Case.fits resolved c = true := by
  obtain ⟨keys, pattern⟩ := c
  simp only at h
  induction resolved generalizing keys with
  | nil =>
      cases keys with
      | nil => rfl
      | cons key keys => exact nomatch h
  | cons q rest ih =>
      cases keys with
      | nil => exact nomatch h
      | cons key keys =>
          obtain ⟨hkey, hkeys⟩ := Bool.and_eq_true_iff.mp h
          rw [fits_cons, ih keys hkeys, accepts, hkey]
          rfl

/-- A case with a wrong number of keys fits no values. -/
theorem fits_of_length_ne {resolved : List (Literal × Value)} {c : Case}
    (h : c.keys.length ≠ resolved.length) : Case.fits resolved c = false := by
  unfold Case.fits
  rw [beq_false_of_ne h, Bool.false_and]

/-- The first case that fits is the first one among those that are kept.
The induction is on the cases while no case of defaults has been met:
behind one, the search is over. -/
theorem find?_kept (resolved : List (Literal × Value)) (index : Nat) (cases : List Case) :
    (kept (caseFindings (resolved.map Prod.fst) index false cases) index cases).find?
        (Case.fits resolved)
      = cases.find? (Case.fits resolved) := by
  induction cases generalizing index with
  | nil => rfl
  | cons c rest ih =>
      unfold caseFindings
      split
      · rename_i harity
        rw [List.length_map] at harity
        have hother : ∀ i, index + 1 ≤ i →
            (Finding.caseKeyArity index (resolved.map Prod.fst).length c.keys.length
              :: caseFindings (resolved.map Prod.fst) (index + 1) false rest).any
                (Finding.condemns i)
            = (caseFindings (resolved.map Prod.fst) (index + 1) false rest).any
                (Finding.condemns i) := by
          intro i hi
          have hne : (index == i) = false := beq_false_of_ne (by omega)
          rw [List.any_cons, Finding.condemns, hne, Bool.false_or]
        rw [kept, List.any_cons, Finding.condemns, beq_self_eq_true, Bool.true_or, if_pos rfl,
          kept_congr hother, ih, List.find?_cons_of_neg (by simp [fits_of_length_ne harity])]
      · rw [if_neg (by simp), kept, any_condemns_caseFindings (Nat.lt_succ_self _),
          if_neg (by simp)]
        cases hfits : Case.fits resolved c with
        | true => rw [List.find?_cons_of_pos hfits, List.find?_cons_of_pos hfits]
        | false =>
            have hkeys : sameKeys c.keys (resolved.map Prod.fst) = false :=
              Bool.eq_false_iff.mpr fun hsame => by
                rw [fits_of_sameKeys hsame] at hfits
                cases hfits
            rw [List.find?_cons_of_neg (by simp [hfits]), List.find?_cons_of_neg (by simp [hfits]),
              hkeys, ih]

-- =========================================================== selections

/-- Without selectors nothing is condemned. -/
theorem kept_emptySelect (index : Nat) (cases : List Case) :
    kept [.emptySelect] index cases = cases := by
  induction cases generalizing index with
  | nil => rfl
  | cons c rest ih =>
      rw [kept, ih]
      rfl

/-- The values of selectors come with their defaults. -/
theorem defaults_of_selectorValues {refer : Target → Except FormatError String} {ctx : Context}
    {ss : List Selector} {resolved : List (Literal × Value)}
    (h : selectorValues refer ctx ss = .ok resolved) :
    resolved.map Prod.fst = ss.map Selector.defaultKey := by
  induction ss generalizing resolved with
  | nil =>
      cases h
      rfl
  | cons s rest ih =>
      unfold selectorValues at h
      cases hv : selectorValue refer ctx s with
      | error e => rw [hv] at h; cases h
      | ok v =>
          cases hvs : selectorValues refer ctx rest with
          | error e => rw [hv, hvs] at h; cases h
          | ok vs =>
              rw [hv, hvs] at h
              cases h
              rw [List.map_cons, List.map_cons, ih hvs]

/-- The pattern of the first case that fits is not among what is
condemned. -/
theorem choose_pruned (s : Selection) {resolved : List (Literal × Value)}
    (h : resolved.map Prod.fst = s.selectors.map Selector.defaultKey) :
    choose s.pruned.cases resolved = choose s.cases resolved := by
  have hfind : s.pruned.cases.find? (Case.fits resolved)
      = s.cases.find? (Case.fits resolved) := by
    unfold Selection.pruned selectionFindings
    split
    · rw [kept_emptySelect]
    · rw [← h, find?_kept]
  unfold choose
  rw [hfind]

/-- A message is equivalent to itself without what is condemned. -/
theorem equivalent_pruned (m : Message) : Equivalent m m.pruned := by
  intro refer ctx
  cases m with
  | pattern p => rfl
  | select s =>
      have hselectors : s.pruned.selectors = s.selectors := rfl
      rw [Message.pruned, pattern_select, pattern_select, hselectors]
      cases hresolved : selectorValues refer ctx s.selectors with
      | error e => rfl
      | ok resolved =>
          show Except.ok _ = Except.ok _
          rw [choose_pruned s (defaults_of_selectorValues hresolved)]

end Lint

-- ============================================================ catalogs

namespace Catalog

open Resolve

/-- Contexts over a catalog and over the catalog without what is condemned
run in parallel. -/
theorem parallel_pruned (c : Catalog) (ctx : Context) :
    Parallel { ctx with messages := c.lookup } { ctx with messages := c.pruned.lookup } where
  get _ := rfl
  result _ _ _ _ := rfl
  resource := rfl
  visible := rfl
  maxDepth := rfl
  messages resource path := by
    show Option.Rel Equivalent (c.lookup resource path) (c.pruned.lookup resource path)
    unfold pruned
    rw [lookup_mapMessages]
    cases c.lookup resource path with
    | none => exact .none
    | some m => exact .some (Lint.equivalent_pruned m)

/-- The cases that the linter condemns are dead. A catalog without them has
the same messages under the same resources and paths, less those cases,
and in every context over it each message has the text and the parts, or
the error, that it has in the same context over the catalog. -/
theorem pruned_formats_alike (c : Catalog) :
    (∀ resource path,
      c.pruned.lookup resource path = (c.lookup resource path).map Message.pruned) ∧
    ∀ (ctx : Context) (m : Message),
      formatText { ctx with messages := c.pruned.lookup } m.pruned
          = formatText { ctx with messages := c.lookup } m ∧
        formatParts { ctx with messages := c.pruned.lookup } m.pruned
          = formatParts { ctx with messages := c.lookup } m :=
  ⟨lookup_mapMessages c, fun ctx m =>
    ⟨(formatText_parallel (parallel_pruned c ctx) (Lint.equivalent_pruned m)).symm,
      (formatParts_parallel (parallel_pruned c ctx) (Lint.equivalent_pruned m)).symm⟩⟩

/-- Of a case with too many keys, the case of the defaults and a case behind
it, only the second is left. -/
example :
    (Selection.pruned ⟨[⟨.variable [], none⟩],
      [⟨[.string "one", .string "two"], []⟩, ⟨[.string "other"], [.literal (.string "x")]⟩,
        ⟨[.string "one"], []⟩]⟩).cases.map Case.keys = [[.string "other"]] := by decide +kernel

end Catalog

end MessageCatalog
