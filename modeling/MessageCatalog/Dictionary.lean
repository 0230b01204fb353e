/-
Dictionaries: values under names, kept in the order of the names.

A dictionary is a list of pairs whose names strictly increase. Names are
compared by their code points, which is the order of their UTF-8 bytes.
The type is the bare list, because trees of dictionaries are nested
inductive types; `Ordered` says that a list is a dictionary, and every
operation here keeps it.
-/
namespace MessageCatalog

/-- A list of values under names. -/
abbrev Dictionary (α : Type) := List (String × α)

namespace Dictionary

variable {α β : Type}

/-- The names strictly increase. -/
def Ordered (d : Dictionary α) : Prop := d.Pairwise fun a b => a.1 < b.1

/-- The value under a name. -/
def get? (name : String) : Dictionary α → Option α
  | [] => none
  | (n, x) :: rest => if n = name then some x else get? name rest

/-- Puts a value under a name, in place of the value already there. -/
def insert (name : String) (x : α) : Dictionary α → Dictionary α
  | [] => [(name, x)]
  | (n, y) :: rest =>
    if name < n then (name, x) :: (n, y) :: rest
    else if n = name then (name, x) :: rest
    else (n, y) :: insert name x rest

/-- The dictionary of a list of pairs; of several values under one name
the last counts. -/
def ofList (pairs : List (String × α)) : Dictionary α :=
  pairs.foldl (fun d p => d.insert p.1 p.2) []

/-- All values of both, those of the second in place of those of the
first. -/
def override (base inner : Dictionary α) : Dictionary α :=
  inner.foldl (fun d p => d.insert p.1 p.2) base

/-- The names in order. -/
def names (d : Dictionary α) : List String := d.map (·.1)

@[simp] theorem get?_nil (name : String) : get? name ([] : Dictionary α) = none := rfl

theorem mem_of_get? {name : String} {x : α} {d : Dictionary α} (h : get? name d = some x) :
    (name, x) ∈ d := by
  induction d with
  | nil => exact nomatch h
  | cons q rest ih =>
    obtain ⟨n, y⟩ := q
    rw [get?] at h
    split at h
    · rename_i hn
      cases h
      subst hn
      exact List.mem_cons_self ..
    · exact List.mem_cons_of_mem _ (ih h)

theorem isSome_get?_iff {name : String} {d : Dictionary α} :
    (get? name d).isSome ↔ name ∈ names d := by
  induction d with
  | nil => simp [names]
  | cons q rest ih =>
    obtain ⟨n, y⟩ := q
    rw [names] at ih
    rw [get?, names, List.map_cons, List.mem_cons, ← ih]
    by_cases hn : n = name
    · simp [hn]
    · simp [hn, Ne.symm hn]

theorem get?_insert_self (name : String) (x : α) (d : Dictionary α) :
    get? name (insert name x d) = some x := by
  induction d with
  | nil => simp [insert, get?]
  | cons p rest ih =>
    obtain ⟨n, y⟩ := p
    rw [insert]
    split
    · simp [get?]
    · split
      · simp [get?]
      · rename_i _ hne
        simp [get?, hne, ih]

theorem get?_insert_of_ne {name other : String} (h : name ≠ other) (x : α)
    (d : Dictionary α) : get? other (insert name x d) = get? other d := by
  induction d with
  | nil => simp [insert, get?, h]
  | cons p rest ih =>
    obtain ⟨n, y⟩ := p
    rw [insert]
    split
    · simp [get?, h]
    · split
      · rename_i _ heq
        subst heq
        simp [get?, h]
      · simp only [get?, ih]

theorem mem_insert {name : String} {x : α} {p : String × α} {d : Dictionary α}
    (h : p ∈ insert name x d) : p = (name, x) ∨ p ∈ d := by
  induction d with
  | nil => simpa [insert] using h
  | cons q rest ih =>
    obtain ⟨n, y⟩ := q
    rw [insert] at h
    split at h
    · simpa using h
    · split at h
      · rcases List.mem_cons.mp h with h | h
        · exact Or.inl h
        · exact Or.inr (List.mem_cons_of_mem _ h)
      · rcases List.mem_cons.mp h with h | h
        · exact Or.inr (h ▸ List.mem_cons_self ..)
        · rcases ih h with h | h
          · exact Or.inl h
          · exact Or.inr (List.mem_cons_of_mem _ h)

theorem ordered_nil : Ordered ([] : Dictionary α) := List.Pairwise.nil

theorem ordered_insert (name : String) (x : α) {d : Dictionary α} (h : d.Ordered) :
    Ordered (insert name x d) := by
  induction d with
  | nil => simp [insert, Ordered]
  | cons q rest ih =>
    obtain ⟨n, y⟩ := q
    obtain ⟨hhead, hrest⟩ := List.pairwise_cons.mp h
    rw [insert]
    split
    · rename_i hlt
      refine List.pairwise_cons.mpr ⟨fun p hp => ?_, h⟩
      rcases List.mem_cons.mp hp with rfl | hp
      · exact hlt
      · exact String.lt_trans hlt (hhead p hp)
    · split
      · rename_i _ heq
        subst heq
        exact List.pairwise_cons.mpr ⟨hhead, hrest⟩
      · rename_i hnlt hne
        refine List.pairwise_cons.mpr ⟨fun p hp => ?_, ih hrest⟩
        rcases mem_insert hp with rfl | hp
        · exact Std.lt_of_le_of_ne (String.not_lt.mp hnlt) hne
        · exact hhead p hp

/-- Only the names decide whether a list is a dictionary. -/
theorem ordered_iff_names {d : Dictionary α} :
    d.Ordered ↔ (d.map (·.1)).Pairwise (· < ·) := List.pairwise_map.symm

/-- Overriding keeps the order of the base, whatever the order of what is
put in. -/
theorem ordered_override {base : Dictionary α} (h : base.Ordered) (inner : Dictionary α) :
    Ordered (override base inner) := by
  induction inner generalizing base with
  | nil => exact h
  | cons p rest ih => exact ih (ordered_insert p.1 p.2 h)

theorem ordered_ofList (pairs : List (String × α)) : Ordered (ofList pairs) :=
  ordered_override ordered_nil pairs

/-- What is put under a name behind all others goes to the end. -/
theorem insert_of_forall_lt {name : String} (x : α) {d : Dictionary α}
    (h : ∀ p ∈ d, p.1 < name) : insert name x d = d ++ [(name, x)] := by
  induction d with
  | nil => rfl
  | cons q rest ih =>
    obtain ⟨n, y⟩ := q
    have hlt : n < name := h (n, y) (List.mem_cons_self ..)
    have hne : n ≠ name := fun heq => String.lt_irrefl name (heq ▸ hlt)
    have hnlt : ¬name < n := fun hgt => String.lt_irrefl _ (String.lt_trans hlt hgt)
    rw [insert, if_neg hnlt, if_neg hne, ih fun p hp => h p (List.mem_cons_of_mem _ hp)]
    rfl

theorem override_of_ordered_append {base inner : Dictionary α} (h : Ordered (base ++ inner)) :
    override base inner = base ++ inner := by
  induction inner generalizing base with
  | nil => rw [List.append_nil]; rfl
  | cons p rest ih =>
    have hlast : ∀ q ∈ base, q.1 < p.1 := fun q hq =>
      (List.pairwise_append.mp h).2.2 q hq p (List.mem_cons_self ..)
    rw [List.append_cons] at h
    calc override base (p :: rest)
        = override (insert p.1 p.2 base) rest := rfl
      _ = base ++ p :: rest := by rw [insert_of_forall_lt _ hlast, ih h, ← List.append_cons]

/-- A list that is a dictionary is the dictionary of its pairs. -/
theorem ofList_of_ordered {d : Dictionary α} (h : d.Ordered) : ofList d = d :=
  override_of_ordered_append h

theorem mem_of_mem_override {p : String × α} {base inner : Dictionary α}
    (h : p ∈ override base inner) : p ∈ base ∨ p ∈ inner := by
  induction inner generalizing base with
  | nil => exact .inl h
  | cons q rest ih =>
    have hmem : p ∈ override (insert q.1 q.2 base) rest := h
    rcases ih hmem with h | h
    · rcases mem_insert h with rfl | h
      · exact .inr (List.mem_cons_self ..)
      · exact .inl h
    · exact .inr (List.mem_cons_of_mem _ h)

theorem mem_of_mem_ofList {p : String × α} {pairs : List (String × α)}
    (h : p ∈ ofList pairs) : p ∈ pairs :=
  (mem_of_mem_override h).resolve_left List.not_mem_nil

theorem insert_perm {name : String} (x : α) {d : Dictionary α} (h : name ∉ names d) :
    (insert name x d).Perm ((name, x) :: d) := by
  induction d with
  | nil => exact .refl _
  | cons p rest ih =>
    obtain ⟨n, y⟩ := p
    have hne : n ≠ name := fun heq => h (heq ▸ List.mem_cons_self ..)
    have hrest : name ∉ names rest := fun hmem => h (List.mem_cons_of_mem _ hmem)
    rw [insert]
    split
    · exact .refl _
    · exact ((ih hrest).cons _).trans (.swap ..)

theorem override_perm {base inner : Dictionary α} (h : (names (base ++ inner)).Nodup) :
    (override base inner).Perm (base ++ inner) := by
  induction inner generalizing base with
  | nil => rw [List.append_nil]; exact .refl _
  | cons p rest ih =>
    have hmiddle : (base ++ p :: rest).Perm (p :: (base ++ rest)) := List.perm_middle
    have hnodup : (names (p :: (base ++ rest))).Nodup := (hmiddle.map _).nodup_iff.mp h
    have hname : p.1 ∉ names base := fun hmem => (List.nodup_cons.mp hnodup).1 <| by
      rw [List.map_append]
      exact List.mem_append_left _ hmem
    have hnext : (insert p.1 p.2 base ++ rest).Perm (p :: (base ++ rest)) :=
      (insert_perm p.2 hname).append_right rest
    exact (ih ((hnext.map _).nodup_iff.mpr hnodup)).trans (hnext.trans hmiddle.symm)

/-- Without a repeated name nothing is lost. -/
theorem ofList_perm {pairs : List (String × α)} (h : (names pairs).Nodup) :
    (ofList pairs).Perm pairs := override_perm h

/-- Choosing names keeps the values under them and loses all others. -/
theorem get?_filter (p : String → Bool) (name : String) (d : Dictionary α) :
    get? name (d.filter fun q => p q.1) = if p name then get? name d else none := by
  induction d with
  | nil => simp
  | cons q rest ih =>
    obtain ⟨n, x⟩ := q
    by_cases hn : n = name
    · subst hn
      cases hp : p n <;> simp [get?, hp, ih]
    · cases hp : p n <;> simp [get?, hp, hn, ih]

/-- Changing every value changes the value under each name. -/
theorem get?_map (f : String → α → β) (name : String) (d : Dictionary α) :
    get? name (d.map fun q => (q.1, f q.1 q.2)) = (get? name d).map (f name) := by
  induction d with
  | nil => rfl
  | cons q rest ih =>
    obtain ⟨n, x⟩ := q
    rw [List.map_cons, get?, get?, ih]
    split
    · rename_i hn
      rw [hn]
      rfl
    · rfl

/-- A name below all others has no value. -/
theorem get?_eq_none_of_lt {name : String} {d : Dictionary α}
    (h : ∀ p ∈ d, name < p.1) : get? name d = none := by
  induction d with
  | nil => rfl
  | cons p rest ih =>
    have hne : p.1 ≠ name := fun heq =>
      String.lt_irrefl name (heq ▸ h p (List.mem_cons_self ..))
    rw [get?, if_neg hne]
    exact ih fun q hq => h q (List.mem_cons_of_mem _ hq)

/-- In a dictionary every value is found under its name. -/
theorem get?_of_mem {name : String} {x : α} {d : Dictionary α} (h : d.Ordered)
    (hmem : (name, x) ∈ d) : get? name d = some x := by
  induction d with
  | nil => exact nomatch hmem
  | cons p rest ih =>
    obtain ⟨hhead, hrest⟩ := List.pairwise_cons.mp h
    rcases List.mem_cons.mp hmem with rfl | hmem
    · exact if_pos rfl
    · have hne : p.1 ≠ name := fun heq =>
        String.lt_irrefl name (heq ▸ hhead (name, x) hmem)
      rw [get?, if_neg hne]
      exact ih hrest hmem

/-- Of the values under a name, that of the second dictionary counts. -/
theorem get?_override (name : String) (base : Dictionary α) {inner : Dictionary α}
    (h : inner.Ordered) :
    get? name (override base inner) = (get? name inner).or (get? name base) := by
  induction inner generalizing base with
  | nil => simp [override]
  | cons p rest ih =>
    obtain ⟨n, x⟩ := p
    obtain ⟨hhead, hrest⟩ := List.pairwise_cons.mp h
    have hstep : get? name (override base ((n, x) :: rest))
        = (get? name rest).or (get? name (insert n x base)) := ih _ hrest
    rw [hstep, get?]
    by_cases hn : n = name
    · subst hn
      rw [get?_eq_none_of_lt hhead, get?_insert_self]
      simp
    · rw [get?_insert_of_ne hn, if_neg hn]

end Dictionary

end MessageCatalog
