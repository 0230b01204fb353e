/-
What a run can see of its context.

A context holds more than a message can find out about it. Of a scope
only the visible bindings come to light, not how they are spread over
frames, which frames are empty and what is hidden behind them
(`formats_alike_of_visible`). Of the functions only their successful
results do: that a function is missing, that it fails, and why it fails
all come to the same (`formats_alike_of_results`).

# Why layers do not show

A scope is asked in two ways. Variables are looked up frame by frame, and
the frames of a chain keep all bindings at once. Both give the same values
(`Scope.get?_flatten`), so scopes with the same visible bindings answer
alike; and a reference that overrides variables does so on both sides on
top of the same bindings (`Scope.flatten_push`). Contexts that differ in
the layers of their scopes are in step.

# Why failures do not show

Functions are called in three places: from patterns, from selectors, and
to sort numbers into categories. Each has its own way to go on without a
value, and none of them asks why there is none (`Functions.result?`).
-/
import MessageCatalog.Proofs.Resolve.Equivalent
import MessageCatalog.Proofs.Resolve.Reference

namespace MessageCatalog

-- =========================================================== functions

namespace Functions

variable {f : Functions} {locales : List String} {kind : FunctionKind} {name : String}
variable {options : Options} {args : List Value} {v : Value}

/-- There is a function of a kind and name, and it gives a value. -/
def Gives (f : Functions) (locales : List String) (kind : FunctionKind) (name : String)
    (options : Options) (args : List Value) (v : Value) : Prop :=
  ∃ g, f.get? kind name = some g ∧ g locales options args = .ok v

/-- A call has the value that its function gives, and none otherwise. -/
theorem result?_eq_some_iff :
    f.result? locales kind name options args = some v ↔ f.Gives locales kind name options args v := by
  unfold result? Gives
  cases f.get? kind name with
  | none => simp
  | some g => cases hg : g locales options args <;> simp [hg, Except.toOption]

/-- Both tables changed, each in its way. -/
def mapTables (change : FunctionKind → Dictionary Function → Dictionary Function)
    (f : Functions) : Functions :=
  ⟨change .format f.format, change .select f.select⟩

/-- The functions without the one of a kind and name. -/
def without (f : Functions) (kind : FunctionKind) (name : String) : Functions :=
  f.mapTables fun k table => table.filter fun q => !(k == kind && q.1 == name)

/-- The functions with other errors in place of theirs. -/
def reworded (reword : FunctionKind → String → FunctionError → FunctionError)
    (f : Functions) : Functions :=
  f.mapTables fun k table => table.map fun q =>
    (q.1, fun locales options args => (q.2 locales options args).mapError (reword k q.1))

theorem table_mapTables (change : FunctionKind → Dictionary Function → Dictionary Function)
    (f : Functions) (kind : FunctionKind) :
    (f.mapTables change).table kind = change kind (f.table kind) := by
  cases kind <;> rfl

/-- All other functions are still there. -/
theorem get?_without (f : Functions) (kind kind' : FunctionKind) (name name' : String) :
    (f.without kind name).get? kind' name'
      = if kind' = kind ∧ name' = name then none else f.get? kind' name' := by
  unfold without get?
  rw [table_mapTables, Dictionary.get?_filter fun n => !(kind' == kind && n == name)]
  by_cases h : kind' = kind ∧ name' = name
  · simp [h]
  · rw [if_neg h]
    simp only [Bool.not_eq_true', Bool.and_eq_false_iff, beq_eq_false_iff_ne]
    exact if_pos (not_and_or.mp h)

/-- A function that gives nothing may as well be missing. -/
theorem gives_without_iff (hnever : ∀ options args v, ¬f.Gives locales kind name options args v)
    {kind' : FunctionKind} {name' : String} :
    (f.without kind name).Gives locales kind' name' options args v
      ↔ f.Gives locales kind' name' options args v := by
  unfold Gives
  rw [get?_without]
  by_cases h : kind' = kind ∧ name' = name
  · obtain ⟨rfl, rfl⟩ := h
    rw [if_pos ⟨rfl, rfl⟩]
    exact iff_of_false nofun (hnever options args v)
  · rw [if_neg h]

/-- Other errors are no other results. -/
theorem gives_reworded_iff {reword : FunctionKind → String → FunctionError → FunctionError} :
    (f.reworded reword).Gives locales kind name options args v
      ↔ f.Gives locales kind name options args v := by
  unfold Gives reworded get?
  rw [table_mapTables, Dictionary.get?_map fun n (g : Function) locales options args =>
    (g locales options args).mapError (reword kind n)]
  cases Dictionary.get? name (f.table kind) with
  | none => simp
  | some g => cases hg : g locales options args <;> simp [hg, Except.mapError]

end Functions

namespace Resolve

-- ============================================================== scopes

/-- Scopes with the same visible bindings keep a context in step. -/
theorem inStep_of_visible (ctx : Context) {s t : Scope} (h : s.flatten = t.flatten) :
    InStep { ctx with scope := s } { ctx with scope := t } where
  get := Scope.get?_eq_of_visible h
  result _ _ _ _ := rfl
  resource := rfl
  visible := h
  maxDepth := rfl

/-- Contexts in step that find the same messages are parallel. -/
theorem InStep.parallel {c d : Context} (h : InStep c d) (hmessages : c.messages = d.messages) :
    Parallel c d := by
  refine { h with messages := fun resource path => ?_ }
  rw [hmessages]
  cases d.messages resource path with
  | none => exact .none
  | some m => exact .some (.refl m)

/-- Formatting sees a scope only through its visible bindings. Two scopes
with the same bindings, however layered, give every message the same text
and the same parts, or the same error. -/
theorem formats_alike_of_visible (ctx : Context) {s t : Scope} (h : s.flatten = t.flatten)
    (m : Message) :
    formatText { ctx with scope := s } m = formatText { ctx with scope := t } m ∧
      formatParts { ctx with scope := s } m = formatParts { ctx with scope := t } m := by
  have hparallel := (inStep_of_visible ctx h).parallel rfl
  exact ⟨formatText_parallel hparallel (.refl m), formatParts_parallel hparallel (.refl m)⟩

/-- The bindings of a greeting in one frame. -/
def flatScope : Scope :=
  .ofDictionary [("name", .string "Bob"), ("place", .string "Oulu")]

/-- The same bindings over several frames, with one hidden and one frame
empty. -/
def layeredScope : Scope :=
  (((Scope.ofDictionary [("name", .string "Ann"), ("place", .string "Oulu")]).push
    [("name", .string "Bob")]).push [])

/-- A reference that swaps the two, over either scope. -/
theorem formats_alike_of_visible_layered :
    layeredScope.flatten = flatScope.flatten ∧ layeredScope.depth ≠ flatScope.depth ∧
    formatText { besideGreeting with scope := layeredScope }
        (.pattern [.message (some "out") [.literal (.string "greeting")] (some swapped)])
      = .ok "Hello, Oulu from Bob" := by
  have hflat : formatText { besideGreeting with scope := flatScope }
      (.pattern [.message (some "out") [.literal (.string "greeting")] (some swapped)])
        = .ok "Hello, Oulu from Bob" := rfl
  have hvisible : layeredScope.flatten = flatScope.flatten := rfl
  exact ⟨hvisible, by decide, (formats_alike_of_visible besideGreeting hvisible _).1.trans hflat⟩

-- ============================================================= results

/-- Functions that give the same values keep a context in step. -/
theorem inStep_of_results (ctx : Context) {locales : List String} {functions : Functions}
    (h : ∀ kind name options args v, functions.Gives locales kind name options args v
      ↔ ctx.functions.Gives ctx.locales kind name options args v) :
    InStep { ctx with locales := locales, functions := functions } ctx where
  get _ := rfl
  result kind name options args := Option.ext fun v => by
    rw [Functions.result?_eq_some_iff, Functions.result?_eq_some_iff]
    exact h kind name options args v
  resource := rfl
  visible := rfl
  maxDepth := rfl

/-- Only the values that functions give are seen. With other locales and
functions that give the same values, each message has the same text and
the same parts, or the same error; so a function that gives none may be
taken away, and errors may be changed at will. -/
theorem formats_alike_of_results (ctx : Context) (m : Message) :
    (∀ locales functions,
      (∀ kind name options args v, functions.Gives locales kind name options args v
        ↔ ctx.functions.Gives ctx.locales kind name options args v) →
      formatText { ctx with locales := locales, functions := functions } m = formatText ctx m ∧
        formatParts { ctx with locales := locales, functions := functions } m
          = formatParts ctx m) ∧
    (∀ kind name,
      (∀ options args v, ¬ctx.functions.Gives ctx.locales kind name options args v) →
      formatText { ctx with functions := ctx.functions.without kind name } m
          = formatText ctx m ∧
        formatParts { ctx with functions := ctx.functions.without kind name } m
          = formatParts ctx m) ∧
    ∀ reword,
      formatText { ctx with functions := ctx.functions.reworded reword } m = formatText ctx m ∧
        formatParts { ctx with functions := ctx.functions.reworded reword } m
          = formatParts ctx m := by
  have halike : ∀ locales functions,
      (∀ kind name options args v, functions.Gives locales kind name options args v
        ↔ ctx.functions.Gives ctx.locales kind name options args v) →
      formatText { ctx with locales := locales, functions := functions } m = formatText ctx m ∧
        formatParts { ctx with locales := locales, functions := functions } m
          = formatParts ctx m := by
    intro locales functions h
    have hparallel := (inStep_of_results ctx h).parallel rfl
    exact ⟨formatText_parallel hparallel (.refl m), formatParts_parallel hparallel (.refl m)⟩
  refine ⟨halike, fun kind name hnever => ?_, fun reword => ?_⟩
  · exact halike ctx.locales _ fun _ _ _ _ _ => Functions.gives_without_iff hnever
  · exact halike ctx.locales _ fun _ _ _ _ _ => Functions.gives_reworded_iff

/-- A function that always fails. -/
def failing : Function := fun _ _ _ => .error (.unsupportedArgument "never")

/-- A context in which numbers cannot be sorted and nothing can be called. -/
def failingContext : Context :=
  { contextOf [] with
    functions := (Functions.empty.register .format "fail" failing).register .select "plural"
      failing }

/-- A selection by a number, with a call in its one case. -/
def failingMessage : Message :=
  .select ⟨[⟨.literal (.number 1), none⟩],
    [⟨[.number 1], [.call "fail" [.literal (.string "x")] []]⟩]⟩

theorem failingContext_never (kind : FunctionKind) (name : String) (options : Options)
    (args : List Value) (v : Value) :
    ¬failingContext.functions.Gives failingContext.locales kind name options args v := by
  rintro ⟨g, hg, hv⟩
  have hmem := Dictionary.mem_of_get? hg
  cases kind <;>
  · rw [(Prod.mk.inj (List.mem_singleton.mp hmem)).2] at hv
    exact nomatch hv

/-- Without the function that sorts numbers, and without any function and
with another locale, the number is still matched as it is and the call is
still shown in braces. -/
theorem formats_alike_of_results_failing :
    formatText failingContext failingMessage = .ok "\x7bfail(x)\x7d" ∧
    formatText { failingContext with functions := failingContext.functions.without .select "plural" }
        failingMessage = .ok "\x7bfail(x)\x7d" ∧
    formatText { failingContext with locales := ["fi"], functions := .empty } failingMessage
      = .ok "\x7bfail(x)\x7d" := by
  have htext : formatText failingContext failingMessage = .ok "\x7bfail(x)\x7d" := by
    decide +kernel
  obtain ⟨halike, hwithout, -⟩ := formats_alike_of_results failingContext failingMessage
  refine ⟨htext, ?_, ?_⟩
  · exact (hwithout .select "plural" (failingContext_never _ _)).1.trans htext
  · refine (halike ["fi"] .empty fun kind name options args v => ?_).1.trans htext
    refine iff_of_false ?_ (failingContext_never kind name options args v)
    rintro ⟨g, hg, -⟩
    cases kind <;> exact nomatch hg

end Resolve

end MessageCatalog
