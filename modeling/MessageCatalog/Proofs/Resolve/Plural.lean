/-
Asking for the plural of a number.

There are two ways to select by the plural category of a number: to ask
for the number, which is then looked up with the function for plurals, or
to call that function on it. A call passes through more hands. If it has
a result, this is made ready for matching like any other value; if it has
none, the call falls back to its argument, and the number is looked up
after all.

Both ways end at the same value, provided the function gives strings and
lists only, which are matched as they are (`matchValue_plural`). So a
selector may be written either way (`Respelled`), and so may any number of
selectors of a message, at any place of a run (`plural_call_alike`).
-/
import Mathlib.Data.List.Forall2
import MessageCatalog.Catalog

namespace MessageCatalog

-- ========================================================== the function

/-- What the function for plurals gives, if there is one, is matched as it
is: it is a string or a list. -/
def Functions.PluralsReady (f : Functions) : Prop :=
  ∀ locales options args v, f.result? locales .select Context.pluralName options args = some v →
    (∃ s, v = .string s) ∨ ∃ items, v = .list items

/-- The built-in function for plurals gives lists, whatever its rules. -/
theorem Functions.pluralsReady_builtinWith (source : Plural.Source) :
    (Functions.builtinWith source).PluralsReady := by
  intro locales options args v h
  right
  have hplural : (Function.plural source locales options args).toOption = some v := h
  simp only [Function.plural, bind, Except.bind] at hplural
  split at hplural
  · cases hplural
  · split at hplural
    · cases hplural
    · split at hplural
      · cases hplural
      · cases hplural
        exact ⟨_, rfl⟩

namespace Resolve

variable {refer : Target → Except FormatError String} {ctx : Context}

/-- Calling the function for plurals on a number comes to the same as
matching the number. -/
theorem matchValue_plural (hready : ctx.functions.PluralsReady) (x : Float) :
    ctx.matchValue (ctx.callSelect Context.pluralName [] [.number x])
      = ctx.matchValue (.number x) := by
  unfold Context.callSelect
  cases hresult : ctx.functions.result? ctx.locales .select Context.pluralName [] [.number x] with
  | none => rfl
  | some v =>
      have hnumber : ctx.matchValue (.number x) = v := by
        simp only [Context.matchValue, hresult, Option.getD_some]
      rw [hnumber, Option.getD_some]
      obtain ⟨s, rfl⟩ | ⟨items, rfl⟩ := hready _ _ _ _ hresult
      · rfl
      · rfl

-- ============================================================= selectors

end Resolve

/-- A selector that calls the function for plurals on what it asked for. -/
def Selector.plural (s : Selector) : Selector :=
  { s with value := .call Context.pluralName [s.value] [] }

namespace Resolve

/-- An element that is a literal or a variable and stands for a number. -/
structure Numeric (refer : Target → Except FormatError String) (ctx : Context) (e : Element) :
    Prop where
  plain : (∃ l, e = .literal l) ∨ ∃ path, e = .variable path
  number : ∃ x, value refer ctx e = .ok (.number x)

/-- A selector as it is, or one that asks for a number with the call for
plurals in its place. -/
inductive Respelled (refer : Target → Except FormatError String) (ctx : Context) :
    Selector → Selector → Prop where
  | same (s : Selector) : Respelled refer ctx s s
  | plural {s : Selector} : Numeric refer ctx s.value → Respelled refer ctx s s.plural

/-- A selector that asks for a number is matched as the call for plurals. -/
theorem selectorValue_plural (hready : ctx.functions.PluralsReady) {s : Selector}
    (h : Numeric refer ctx s.value) :
    selectorValue refer ctx s.plural = selectorValue refer ctx s := by
  obtain ⟨e, default⟩ := s
  obtain ⟨x, hx⟩ := h.number
  have hcall : selectorValue refer ctx (Selector.plural ⟨e, default⟩)
      = .ok (ctx.matchValue (ctx.callSelect Context.pluralName [] [.number x])) := by
    show (values refer ctx [e] >>= fun args =>
      pure (ctx.matchValue (ctx.callSelect Context.pluralName [] args))) = _
    have hargs : values refer ctx [e] = .ok [.number x] := by
      rw [values, values, hx]
      rfl
    rw [hargs]
    rfl
  have hself : selectorValue refer ctx ⟨e, default⟩ = .ok (ctx.matchValue (.number x)) := by
    unfold selectorValue
    obtain ⟨l, rfl⟩ | ⟨path, rfl⟩ := h.plain
    · simp only [hx]
      rfl
    · simp only [hx]
      rfl
  rw [hcall, hself, matchValue_plural hready]

theorem Respelled.selectorValue_eq (hready : ctx.functions.PluralsReady) {s t : Selector}
    (h : Respelled refer ctx s t) :
    t.defaultKey = s.defaultKey ∧ selectorValue refer ctx t = selectorValue refer ctx s := by
  cases h with
  | same => exact ⟨rfl, rfl⟩
  | plural hnumeric => exact ⟨rfl, selectorValue_plural hready hnumeric⟩

/-- Selectors have the same defaults and values however they are spelled,
and the same one of them fails, if any. -/
theorem selectorValues_respelled (hready : ctx.functions.PluralsReady) {ss ts : List Selector}
    (h : List.Forall₂ (Respelled refer ctx) ss ts) :
    selectorValues refer ctx ts = selectorValues refer ctx ss := by
  induction h with
  | nil => rfl
  | cons hhead _ ih =>
      obtain ⟨hdefault, hvalue⟩ := hhead.selectorValue_eq hready
      rw [selectorValues, selectorValues, hdefault, hvalue, ih]

-- ============================================================== messages

/-- A selection leads to the same pattern however its selectors are spelled,
and so to the same text and the same parts. -/
theorem message_respelled (hready : ctx.functions.PluralsReady) {s : Selection}
    {ts : List Selector} (h : List.Forall₂ (Respelled refer ctx) s.selectors ts)
    (referParts : Target → Except FormatError (List Part)) :
    messageText refer ctx (.select { s with selectors := ts })
        = messageText refer ctx (.select s) ∧
      messageParts refer referParts ctx (.select { s with selectors := ts })
        = messageParts refer referParts ctx (.select s) := by
  have hpattern : pattern refer ctx (.select { s with selectors := ts })
      = pattern refer ctx (.select s) := by
    rw [pattern_select, pattern_select, selectorValues_respelled hready h]
  exact ⟨messageText_congr hpattern, messageParts_congr hpattern referParts⟩

/-- To ask for a number or for its plural is the same. In a selection any
selectors that are a literal or a variable and stand for a number may be
replaced by calls of the function for plurals, without a change to the
text, the parts or the error, in every context. This holds of the message
that is formatted as well as of one that is referred to, whatever
references stand for there. Whether the function is there, and whether it
fails for a number, does not matter, as long as it gives nothing but
strings and lists. -/
theorem plural_call_alike (hready : ctx.functions.PluralsReady) (s : Selection)
    (ts : List Selector) :
    (List.Forall₂ (Respelled (textOf noRepeat ctx.maxDepth []) ctx) s.selectors ts →
      formatText ctx (.select { s with selectors := ts }) = formatText ctx (.select s) ∧
      formatParts ctx (.select { s with selectors := ts }) = formatParts ctx (.select s)) ∧
    ∀ refer referParts, List.Forall₂ (Respelled refer ctx) s.selectors ts →
      messageText refer ctx (.select { s with selectors := ts })
          = messageText refer ctx (.select s) ∧
        messageParts refer referParts ctx (.select { s with selectors := ts })
          = messageParts refer referParts ctx (.select s) :=
  ⟨fun h => message_respelled hready h _,
    fun _ referParts h => message_respelled hready h referParts⟩

/-- One apple. -/
def basket : Context :=
  ⟨["en"], .builtin, fun _ _ => none, none,
    .ofDictionary [("count", .number 1), ("fruit", .string "apple")], 4⟩

/-- Fruits by their kind and number. -/
def fruits : Selection :=
  ⟨[⟨.variable [.literal (.string "fruit")], none⟩, ⟨.variable [.literal (.string "count")], none⟩],
    [⟨[.string "apple", .string "one"], [.literal (.string "an apple")]⟩,
      ⟨[.string "apple", .string "other"], [.literal (.string "apples")]⟩,
      ⟨[.string "other", .string "other"], [.literal (.string "fruit")]⟩]⟩

theorem plural_call_alike_fruits :
    basket.functions.PluralsReady ∧
    Numeric (textOf noRepeat 4 []) basket (.variable [.literal (.string "count")]) ∧
    formatText basket (.select { fruits with
      selectors := [⟨.variable [.literal (.string "fruit")], none⟩,
        ⟨.call "plural" [.variable [.literal (.string "count")]] [], none⟩] }) = .ok "an apple" := by
  have hready : basket.functions.PluralsReady := Functions.pluralsReady_builtinWith _
  have hnumeric : Numeric (textOf noRepeat 4 []) basket (.variable [.literal (.string "count")]) :=
    ⟨.inr ⟨_, rfl⟩, 1, rfl⟩
  have htext : formatText basket (.select fruits) = .ok "an apple" := rfl
  refine ⟨hready, hnumeric, ?_⟩
  rw [← htext]
  exact ((plural_call_alike hready fruits _).1 (.cons (.same _) (.cons (.plural hnumeric) .nil))).1

end Resolve

end MessageCatalog
