/-
Selections that the linter says have no fallback.

The linter looks for a case whose keys are the defaults of the selectors.
Such a case fits all values, so a selection that has one never comes to
its end without a match. The converse holds as well: no other case fits
all values, nor do all other cases together. For there are only so many
keys, and selectors whose values are strings that are no key are matched
by their defaults alone (`fits_of_strings`).

So the linter says that a fallback is missing exactly if some values of
the selectors are matched by no case (`missing_fallback_iff_unmatched`).
-/
import Mathlib.Data.Fintype.EquivFin
import MessageCatalog.Proofs.Lint.Cases
import MessageCatalog.Proofs.Resolve.Selection

namespace MessageCatalog

namespace Lint

open Resolve

-- ============================================================ findings

theorem sameKeys_length {as bs : List Literal} (h : sameKeys as bs = true) :
    as.length = bs.length := by
  induction as generalizing bs with
  | nil =>
      cases bs with
      | nil => rfl
      | cons b bs => exact nomatch h
  | cons a as ih =>
      cases bs with
      | nil => exact nomatch h
      | cons b bs => rw [List.length_cons, List.length_cons, ih (Bool.and_eq_true_iff.mp h).2]

/-- Cases lack a fallback exactly if none before them was one and none of
them has the defaults for its keys. -/
theorem missingFallback_caseFindings_iff {defaults : List Literal} {index : Nat} {caught : Bool}
    {cases : List Case} :
    .missingFallbackCase ∈ caseFindings defaults index caught cases
      ↔ caught = false ∧ ∀ c ∈ cases, sameKeys c.keys defaults = false := by
  induction cases generalizing index caught with
  | nil => cases caught <;> simp [caseFindings]
  | cons c rest ih =>
      rw [List.forall_mem_cons]
      unfold caseFindings
      split
      · rename_i harity
        have hkeys : sameKeys c.keys defaults = false :=
          Bool.eq_false_iff.mpr fun hsame => harity (sameKeys_length hsame)
        simp [ih, hkeys]
      · cases caught with
        | true => simp [ih]
        | false => simp [ih]

theorem missingFallback_selectionFindings_iff {s : Selection} (h : s.selectors ≠ []) :
    .missingFallbackCase ∈ selectionFindings s
      ↔ ∀ c ∈ s.cases, sameKeys c.keys (s.selectors.map Selector.defaultKey) = false := by
  unfold selectionFindings
  rw [if_neg (by simpa using h), missingFallback_caseFindings_iff]
  exact and_iff_right rfl

-- ============================================================= strings

/-- A case fits strings that are none of its keys exactly if it is that of
the defaults. -/
theorem fits_of_strings {resolved : List (Literal × Value)} {c : Case}
    (h : ∀ q ∈ resolved, ∃ text, q.2 = .string text ∧ .string text ∉ c.keys) :
    Case.fits resolved c = sameKeys c.keys (resolved.map Prod.fst) := by
  obtain ⟨keys, pattern⟩ := c
  simp only at h
  induction resolved generalizing keys with
  | nil => cases keys <;> rfl
  | cons q rest ih =>
      cases keys with
      | nil => rfl
      | cons key keys =>
          obtain ⟨default, v⟩ := q
          obtain ⟨⟨text, rfl, hfresh⟩, hrest⟩ := List.forall_mem_cons.mp h
          have hmatch : accepts default (.string text) key = key.agrees default := by
            have hne : key ≠ .string text := fun heq => hfresh (heq ▸ List.mem_cons_self ..)
            have hnone := mt matches_string_iff.mp hne
            unfold accepts
            rw [Bool.or_assoc, Bool.eq_false_iff.mpr hnone, Bool.or_false]
          have hkeys := ih keys fun q hq =>
            (hrest q hq).imp fun _ hq => ⟨hq.1, fun hmem => hq.2 (List.mem_cons_of_mem _ hmem)⟩
          rw [fits_cons, hmatch, hkeys]
          rfl

/-- There are strings that are keys of none of the cases. -/
theorem exists_string_not_key (cases : List Case) :
    ∃ text, ∀ c ∈ cases, .string text ∉ c.keys := by
  obtain ⟨text, htext⟩ := Infinite.exists_notMem_finset
    (cases.flatMap fun c => c.keys.filterMap Literal.string?).toFinset
  refine ⟨text, fun c hc hkey => htext ?_⟩
  rw [List.mem_toFinset, List.mem_flatMap]
  exact ⟨c, hc, List.mem_filterMap.mpr ⟨.string text, hkey, rfl⟩⟩

-- ============================================================== values

/-- Selectors with values have their defaults. -/
theorem defaults_zip {defaults : List Literal} {vs : List Value}
    (h : vs.length = defaults.length) : (defaults.zip vs).map Prod.fst = defaults :=
  List.map_fst_zip (Nat.le_of_eq h.symm)

/-- Values that are strings and no key of a case are in want of a match:
the case fits them exactly if it is that of the defaults. -/
theorem fits_texts {defaults : List Literal} {texts : List String} {c : Case}
    (hlength : texts.length = defaults.length) (h : ∀ text ∈ texts, .string text ∉ c.keys) :
    Case.fits (defaults.zip (texts.map Value.string)) c = sameKeys c.keys defaults := by
  rw [fits_of_strings fun q hq => ?_, defaults_zip (by rw [List.length_map, hlength])]
  obtain ⟨text, htext, heq⟩ := List.mem_map.mp (List.of_mem_zip hq).2
  exact ⟨text, heq.symm, h text htext⟩

variable {s : Selection}

/-- If no fallback is missing, some case has the defaults for its keys. -/
theorem exists_default_case (hs : s.selectors ≠ [])
    (h : .missingFallbackCase ∉ selectionFindings s) :
    ∃ c ∈ s.cases, sameKeys c.keys (s.selectors.map Selector.defaultKey) = true := by
  rw [missingFallback_selectionFindings_iff hs] at h
  simpa using h

/-- If a fallback is missing, no case fits strings that are no keys. -/
theorem fits_texts_of_missing (hs : s.selectors ≠ [])
    (h : .missingFallbackCase ∈ selectionFindings s) {texts : List String}
    (hlength : texts.length = s.selectors.length)
    (hfresh : ∀ text ∈ texts, ∀ c ∈ s.cases, .string text ∉ c.keys) :
    ∀ c ∈ s.cases, Case.fits ((s.selectors.map Selector.defaultKey).zip
      (texts.map Value.string)) c = false := by
  intro c hc
  rw [fits_texts (by rw [hlength, List.length_map]) fun text htext => hfresh text htext c hc]
  exact (missingFallback_selectionFindings_iff hs).mp h c hc

variable {refer : Target → Except FormatError String} {ctx : Context}

/-- Where the case of the defaults is there, the pattern is that of a case
that fits. -/
theorem pattern_of_default_case {resolved : List (Literal × Value)}
    (hresolved : selectorValues refer ctx s.selectors = .ok resolved)
    (h : ∃ c ∈ s.cases, sameKeys c.keys (s.selectors.map Selector.defaultKey) = true) :
    ∃ c ∈ s.cases, Case.fits resolved c = true ∧ pattern refer ctx (.select s) = .ok c.pattern := by
  obtain ⟨c, hc, hsame⟩ := h
  rw [← defaults_of_selectorValues hresolved] at hsame
  -- Some case fits, so the search for the first one finds one.
  obtain ⟨d, hd⟩ := Option.isSome_iff_exists.mp
    (List.find?_isSome.mpr ⟨c, hc, fits_of_sameKeys hsame⟩)
  refine ⟨d, List.mem_of_find?_eq_some hd, List.find?_some hd, ?_⟩
  rw [pattern_select, hresolved]
  show Except.ok (choose s.cases resolved) = _
  unfold choose
  rw [hd]

/-- Selectors that stand for strings lead to the empty pattern if no case
fits these. -/
theorem pattern_of_texts {texts : List String}
    (hresolved : s.selectors.mapM (resolvedValue refer ctx) = .ok (texts.map Value.string))
    (h : ∀ c ∈ s.cases, Case.fits ((s.selectors.map Selector.defaultKey).zip
      (texts.map Value.string)) c = false) :
    pattern refer ctx (.select s) = .ok [] := by
  -- Strings are matched as they are.
  have hvalues : (texts.map Value.string).map ctx.matchValue = texts.map Value.string := by
    rw [List.map_map]
    rfl
  have hmatched : (s.selectors.zip (texts.map Value.string)).map
        (fun q => (q.1.defaultKey, ctx.matchValue q.2))
      = (s.selectors.map Selector.defaultKey).zip (texts.map Value.string) := by
    conv_rhs => rw [← hvalues, List.zip_map]
    rfl
  rw [pattern_select_of_resolved hresolved s.cases, hmatched]
  unfold choose
  rw [List.find?_eq_none.mpr fun c hc => by simp [h c hc]]

/-- The linter is right about a missing fallback. It is silent exactly if,
whatever values the selectors have, some case fits. Then in no context a
selection ends without a match. Otherwise no case fits strings that are
none of the keys, of which there are always some, and a message whose
selectors stand for such strings is formatted to nothing. -/
theorem missing_fallback_iff_unmatched (hs : s.selectors ≠ []) :
    (.missingFallbackCase ∉ selectionFindings s ↔
      ∀ vs : List Value, vs.length = s.selectors.length →
        ∃ c ∈ s.cases, Case.fits ((s.selectors.map Selector.defaultKey).zip vs) c = true) ∧
    (.missingFallbackCase ∉ selectionFindings s →
      ∀ (refer : Target → Except FormatError String) (ctx : Context)
        (resolved : List (Literal × Value)), selectorValues refer ctx s.selectors = .ok resolved →
        ∃ c ∈ s.cases, Case.fits resolved c = true ∧
          pattern refer ctx (.select s) = .ok c.pattern) ∧
    (∃ text, ∀ c ∈ s.cases, .string text ∉ c.keys) ∧
    (.missingFallbackCase ∈ selectionFindings s →
      ∀ texts : List String, texts.length = s.selectors.length →
        (∀ text ∈ texts, ∀ c ∈ s.cases, .string text ∉ c.keys) →
        (∀ c ∈ s.cases, Case.fits ((s.selectors.map Selector.defaultKey).zip
          (texts.map Value.string)) c = false) ∧
        ∀ ctx : Context, s.selectors.mapM (resolvedValue (textOf noRepeat ctx.maxDepth []) ctx)
            = .ok (texts.map Value.string) →
          formatText ctx (.select s) = .ok "" ∧ formatParts ctx (.select s) = .ok []) := by
  refine ⟨⟨fun h vs hlength => ?_, fun h hmissing => ?_⟩,
    fun h refer ctx resolved hresolved => pattern_of_default_case hresolved (exists_default_case hs h),
    exists_string_not_key s.cases, fun h texts hlength hfresh => ?_⟩
  · obtain ⟨c, hc, hsame⟩ := exists_default_case hs h
    refine ⟨c, hc, fits_of_sameKeys ?_⟩
    rwa [defaults_zip (by rw [hlength, List.length_map])]
  · obtain ⟨text, htext⟩ := exists_string_not_key s.cases
    let texts := List.replicate s.selectors.length text
    have hfresh : ∀ other ∈ texts, ∀ c ∈ s.cases, .string other ∉ c.keys := by
      intro other hother
      rw [List.eq_of_mem_replicate hother]
      exact htext
    obtain ⟨c, hc, hfits⟩ := h (texts.map Value.string) (by simp [texts])
    rw [fits_texts_of_missing hs hmissing (by simp [texts]) hfresh c hc] at hfits
    cases hfits
  · have hfits := fits_texts_of_missing hs h hlength hfresh
    refine ⟨hfits, fun ctx hresolved => ?_⟩
    have hpattern := pattern_of_texts hresolved hfits
    constructor
    · show messageText (textOf noRepeat ctx.maxDepth []) ctx (.select s) = _
      unfold messageText
      rw [hpattern]
      rfl
    · show messageParts (textOf noRepeat ctx.maxDepth []) (partsOf noRepeat ctx.maxDepth []) ctx
        (.select s) = _
      unfold messageParts
      rw [hpattern]
      rfl

/-- A day with weather that nobody foresaw. -/
def foggyDay : Context :=
  ⟨["en"], .builtin, fun _ _ => none, none,
    .ofDictionary [("sky", .string "foggy"), ("wind", .string "calm")], 4⟩

/-- The weather: the case of the defaults has too few keys, and the last
case has the default of one selector only. -/
def weather : Selection :=
  ⟨[⟨.variable [.literal (.string "sky")], none⟩,
      ⟨.variable [.literal (.string "wind")], some (.number 0)⟩],
    [⟨[.string "other"], [.literal (.string "fine")]⟩,
      ⟨[.string "rainy", .number 0], [.literal (.string "rain")]⟩,
      ⟨[.string "other", .string "strong"], [.literal (.string "a storm")]⟩]⟩

theorem missing_fallback_iff_unmatched_weather :
    weather.selectors ≠ [] ∧ .missingFallbackCase ∈ selectionFindings weather ∧
    (¬∀ vs : List Value, vs.length = 2 →
      ∃ c ∈ weather.cases, Case.fits ([.string "other", .number 0].zip vs) c = true) ∧
    formatText foggyDay (.select weather) = .ok "" := by
  have hselectors : weather.selectors ≠ [] := List.cons_ne_nil _ _
  have hmissing : .missingFallbackCase ∈ selectionFindings weather := by decide +kernel
  obtain ⟨hiff, -, -, hempty⟩ := missing_fallback_iff_unmatched hselectors
  refine ⟨hselectors, hmissing, fun h => hiff.mpr h hmissing, ?_⟩
  exact ((hempty hmissing ["foggy", "calm"] rfl (by decide +kernel)).2 foggyDay rfl).1

end Lint

end MessageCatalog
