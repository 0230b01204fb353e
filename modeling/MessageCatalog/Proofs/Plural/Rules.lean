/-
Which category a number gets.

A finite number is sorted by the rules that the source has for the first
usable locale (`FirstUsable`); what the source is, the program does not ask
(`pluralCategory_eq_ok_iff`). It fails in two ways: an infinity or
not-a-number has no operands, whatever the locale, and a finite number has
no category where the source has no rules
(`pluralCategory_eq_unsupportedLocale_iff`).

The source at hand keeps its rules by families of languages. No language is
in two of them (`nodup_languages`), so their order does not matter: a
locale has the rules of the family that its language is in, or none but
`other` (`cldr_of_mem`, `cldr_of_notMem`).
-/
import MessageCatalog.Function.Builtin
import MessageCatalog.Proofs.Decimal.Written

namespace MessageCatalog

-- ========================================================== categories

/-- Finite numbers have operands, and no others. -/
theorem Plural.Operands.isSome_ofNumber?_iff {x : Float} :
    (Plural.Operands.ofNumber? x).isSome ↔ Decimal.isFinite x = true := by
  rw [Decimal.isFinite_iff]
  unfold Plural.Operands.ofNumber?
  cases Decimal.read x with
  | finite negative m =>
      simp only
      split <;> simp
  | infinite negative => simp
  | notANumber => simp

namespace Function

/-- The locale of the first tag that is well formed, or English where none
is. -/
inductive FirstUsable : List String → Locale → Prop where
  | first {before after : List String} {tag : String} {l : Locale} :
      (∀ t ∈ before, Locale.ofTag? t = none) → Locale.ofTag? tag = some l →
      FirstUsable (before ++ tag :: after) l
  | english {locales : List String} : (∀ t ∈ locales, Locale.ofTag? t = none) →
      FirstUsable locales ⟨"en", none, none, []⟩

variable {source : Plural.Source} {locales : List String} {kind : Plural.Kind} {x : Float}

theorem firstUsable_iff {l : Locale} : FirstUsable locales l ↔ pluralLocale locales = l := by
  unfold pluralLocale
  constructor
  · rintro (⟨hbefore, htag⟩ | hnone)
    · rw [List.findSome?_eq_some_iff.mpr ⟨_, _, _, rfl, htag, hbefore⟩, Option.getD_some]
    · rw [List.findSome?_eq_none_iff.mpr hnone, Option.getD_none]
  · rintro rfl
    cases hfind : locales.findSome? Locale.ofTag? with
    | none => exact .english (List.findSome?_eq_none_iff.mp hfind)
    | some l =>
        obtain ⟨before, tag, after, rfl, htag, hbefore⟩ := List.findSome?_eq_some_iff.mp hfind
        exact .first hbefore htag

/-- A number has the category that the rules of the first usable locale
give its operands. -/
theorem pluralCategory_eq_ok_iff {c : Plural.Category} :
    pluralCategory source locales kind x = .ok c ↔ ∃ l o rules, FirstUsable locales l ∧
      Plural.Operands.ofNumber? x = some o ∧ source kind l = .ok rules ∧ rules o = c := by
  simp only [firstUsable_iff, exists_and_left, exists_eq_left']
  unfold pluralCategory
  cases Plural.Operands.ofNumber? x with
  | none => simp
  | some o =>
      cases source kind (pluralLocale locales) with
      | error tag => simp
      | ok rules => simp

/-- Only a finite number gets to the rules, and finds none where the source
has none for the first usable locale. -/
theorem pluralCategory_eq_unsupportedLocale_iff {tag : String} :
    pluralCategory source locales kind x = .error (.unsupportedLocale tag) ↔
      Decimal.isFinite x = true ∧ ∃ l, FirstUsable locales l ∧ source kind l = .error tag := by
  simp only [firstUsable_iff, exists_eq_left', ← Plural.Operands.isSome_ofNumber?_iff]
  unfold pluralCategory
  cases Plural.Operands.ofNumber? x with
  | none => simp
  | some o =>
      cases source kind (pluralLocale locales) with
      | error tag => simp
      | ok rules => simp

end Function

namespace Plural

-- ============================================================ families

variable {families : List Family} {language : String}

theorem rulesIn_cons (f : Family) (rest : List Family) (language : String) :
    rulesIn (f :: rest) language
      = if language ∈ f.languages then f.rules else rulesIn rest language := by
  unfold rulesIn
  by_cases h : language ∈ f.languages
  · simp only [List.find?_cons, List.contains_iff_mem.mpr h, if_pos h]
  · simp only [List.find?_cons, List.contains_eq_mem, decide_eq_false h, if_neg h]

/-- With no language in two families, a language has the rules of any
family it is in. -/
theorem rulesIn_of_mem (hnodup : (families.flatMap Family.languages).Nodup) {f : Family}
    (hf : f ∈ families) (hlanguage : language ∈ f.languages) :
    rulesIn families language = f.rules := by
  induction families with
  | nil => cases hf
  | cons g rest ih =>
      rw [List.flatMap_cons, List.nodup_append] at hnodup
      obtain ⟨-, hrest, hapart⟩ := hnodup
      rw [rulesIn_cons]
      obtain rfl | hf := List.mem_cons.mp hf
      · rw [if_pos hlanguage]
      · have hg : language ∉ g.languages := fun hg =>
          absurd rfl (hapart _ hg _ (List.mem_flatMap.mpr ⟨f, hf, hlanguage⟩))
        rw [if_neg hg, ih hrest hf]

theorem rulesIn_of_notMem (h : ∀ f ∈ families, language ∉ f.languages) :
    rulesIn families language = fun _ => .other := by
  induction families with
  | nil => rfl
  | cons g rest ih =>
      obtain ⟨hg, hrest⟩ := List.forall_mem_cons.mp h
      rw [rulesIn_cons, if_neg hg, ih hrest]

/-- No language is in two families. -/
theorem nodup_languages (kind : Kind) :
    ((Plural.families kind).flatMap Family.languages).Nodup := by
  cases kind with
  | cardinal => decide +kernel
  | ordinal => decide +kernel

variable {kind : Kind} {l : Locale}

/-- A locale has the rules of the family that its language is in. -/
theorem cldr_of_mem {f : Family} (hf : f ∈ Plural.families kind)
    (hlanguage : rulesOf l ∈ f.languages) : cldr kind l = .ok f.rules :=
  congrArg Except.ok (rulesIn_of_mem (nodup_languages kind) hf hlanguage)

/-- In a language without a family all numbers are alike. -/
theorem cldr_of_notMem (h : ∀ f ∈ Plural.families kind, rulesOf l ∉ f.languages) :
    cldr kind l = .ok fun _ => .other :=
  congrArg Except.ok (rulesIn_of_notMem h)

/-- With the rules at hand every finite number has a category in every list
of locales, and no other number has one. -/
theorem exists_pluralCategory_cldr_iff {locales : List String} {x : Float} :
    (∃ c, Function.pluralCategory cldr locales kind x = .ok c) ↔ Decimal.isFinite x = true := by
  rw [← Operands.isSome_ofNumber?_iff, Option.isSome_iff_exists]
  constructor
  · rintro ⟨c, hc⟩
    obtain ⟨l, o, rules, -, ho, -⟩ := Function.pluralCategory_eq_ok_iff.mp hc
    exact ⟨o, ho⟩
  · rintro ⟨o, ho⟩
    have hlocale := Function.firstUsable_iff.mpr (rfl : Function.pluralLocale locales = _)
    exact ⟨_, Function.pluralCategory_eq_ok_iff.mpr ⟨_, o, _, hlocale, ho, rfl, rfl⟩⟩

example : Function.pluralCategory cldr ["ru"] .cardinal 2 = .ok .few := by decide +kernel

example : Function.pluralCategory cldr ["ru"] .cardinal 5 = .ok .many := by decide +kernel

end Plural

end MessageCatalog
