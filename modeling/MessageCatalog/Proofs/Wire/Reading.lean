/-
How documents are read.

Elements and entries are read with as many steps as their documents have
levels, but the number of steps is only a bound: what stands inside a
document has fewer levels (`Json.Inside.levels`), so more steps change
nothing. That leaves the reading itself, which takes the first
alternative that a document has the shape of (`Element.ofJson?_eq`,
`Entry.ofJson?_eq`).

What was read says in turn what it was read from: the parts of an element
were read from documents inside its own (`Element.ReadFrom`). A property
of all that is read is shown one alternative at a time, for an element
whose parts have it already (`Element.ofJson?_induction`).
-/
import Mathlib.Data.Nat.Init
import Mathlib.Data.Option.Basic
import MessageCatalog.Wire.Resource

namespace MessageCatalog

-- =============================================================== lists

section Lists

variable {α β : Type} {f : α → Option β}

theorem mapM_nil_iff {ys : List β} : ([] : List α).mapM f = some ys ↔ ys = [] := by
  rw [List.mapM_nil]
  exact ⟨fun h => (Option.some.inj h).symm, fun h => congrArg some h.symm⟩

theorem mapM_cons_iff {x : α} {xs : List α} {ys : List β} :
    (x :: xs).mapM f = some ys ↔ ∃ z zs, f x = some z ∧ xs.mapM f = some zs ∧ ys = z :: zs := by
  rw [List.mapM_cons]
  cases f x with
  | none => simp
  | some y => cases xs.mapM f <;> simp [eq_comm]

theorem mem_of_mapM {xs : List α} {ys : List β} (h : xs.mapM f = some ys) {y : β} (hy : y ∈ ys) :
    ∃ x ∈ xs, f x = some y := by
  induction xs generalizing ys with
  | nil =>
      rw [mapM_nil_iff] at h
      subst h
      exact nomatch hy
  | cons x xs ih =>
      obtain ⟨z, zs, hx, hxs, rfl⟩ := mapM_cons_iff.mp h
      rcases List.mem_cons.mp hy with rfl | hy
      · exact ⟨x, List.mem_cons_self .., hx⟩
      · obtain ⟨x', hx', heq⟩ := ih hxs hy
        exact ⟨x', List.mem_cons_of_mem _ hx', heq⟩

theorem mapM_congr {g : α → Option β} {xs : List α} (h : ∀ x ∈ xs, f x = g x) :
    xs.mapM f = xs.mapM g := by
  induction xs with
  | nil => rfl
  | cons x xs ih =>
      rw [List.mapM_cons, List.mapM_cons, h x (List.mem_cons_self ..),
        ih fun x' hx' => h x' (List.mem_cons_of_mem _ hx')]

theorem mapM_of_forall {g : α → β} {xs : List α} (h : ∀ x ∈ xs, f x = some (g x)) :
    xs.mapM f = some (xs.map g) := by
  induction xs with
  | nil => rfl
  | cons x xs ih =>
      exact mapM_cons_iff.mpr ⟨_, _, h x (List.mem_cons_self ..),
        ih fun y hy => h y (List.mem_cons_of_mem _ hy), rfl⟩

theorem mapM_map_of_forall {γ : Type} {g : γ → α} {h : γ → β} {xs : List γ}
    (hf : ∀ x ∈ xs, f (g x) = some (h x)) : (xs.map g).mapM f = some (xs.map h) := by
  rw [List.mapM_map]
  exact mapM_of_forall hf

theorem mapM_isSome {xs : List α} : (xs.mapM f).isSome ↔ ∀ x ∈ xs, (f x).isSome := by
  induction xs with
  | nil => simp
  | cons x xs ih =>
      rw [List.forall_mem_cons, ← ih, List.mapM_cons]
      cases f x with
      | none => simp
      | some y => cases xs.mapM f <;> simp

end Lists

-- ============================================================== levels

namespace Json

theorem levelsOfItems_le {items : List Json} {j : Json} (h : j ∈ items) :
    j.levels ≤ levelsOfItems items := by
  induction items with
  | nil => exact nomatch h
  | cons first rest ih =>
      rw [levelsOfItems]
      rcases List.mem_cons.mp h with rfl | h
      · exact Nat.le_max_left ..
      · exact Nat.le_trans (ih h) (Nat.le_max_right ..)

theorem levelsOfMembers_le {members : List (String × Json)} {m : String × Json} (h : m ∈ members) :
    m.2.levels ≤ levelsOfMembers members := by
  induction members with
  | nil => exact nomatch h
  | cons first rest ih =>
      obtain ⟨name, j⟩ := first
      rw [levelsOfMembers]
      rcases List.mem_cons.mp h with rfl | h
      · exact Nat.le_max_left ..
      · exact Nat.le_trans (ih h) (Nat.le_max_right ..)

theorem levels_pos (j : Json) : 0 < j.levels := by
  cases j <;> exact Nat.succ_pos _

/-- `k` stands directly inside `j`. -/
inductive Inside (k : Json) : Json → Prop where
  | item {items : List Json} (h : k ∈ items) : Inside k (.array items)
  | member {members : List (String × Json)} {name : String} (h : (name, k) ∈ members) :
    Inside k (.object members)

theorem Inside.levels {j k : Json} (h : Inside k j) : k.levels < j.levels := by
  cases h with
  | item h => exact Nat.lt_succ_of_le (levelsOfItems_le h)
  | member h => exact Nat.lt_succ_of_le (levelsOfMembers_le h)

/-- The fields of a record stand inside it. -/
theorem inside_of_field {names : List String} {j k : Json} {fields : List (Option Json)}
    (h : j.fields? names = some fields) (hk : some k ∈ fields) : Inside k j := by
  cases j with
  | array items =>
      rw [fields?] at h
      split at h
      · cases h
        rcases List.mem_append.mp hk with hk | hk
        · obtain ⟨j, hj, heq⟩ := List.mem_map.mp hk
          cases heq
          exact .item hj
        · exact nomatch (List.mem_replicate.mp hk).2
      · exact nomatch h
  | object members =>
      rw [fields?] at h
      obtain ⟨name, -, hname⟩ := mem_of_mapM h hk
      split at hname
      · exact nomatch hname
      · rename_i name' j' hfilter
        cases hname
        have hmem : (name', k) ∈ members.filter (·.1 == name) := by
          rw [hfilter]
          exact List.mem_cons_self ..
        exact .member (List.mem_filter.mp hmem).1
      · exact nomatch hname
  | null => exact nomatch h
  | bool _ => exact nomatch h
  | integer _ => exact nomatch h
  | decimal _ => exact nomatch h
  | string _ => exact nomatch h

theorem dictionary?_congr {α : Type} {read read' : Json → Option α} {members : List (String × Json)}
    (h : ∀ m ∈ members, read m.2 = read' m.2) :
    Json.dictionary? read members = Json.dictionary? read' members := by
  unfold Json.dictionary?
  rw [mapM_congr fun m hm => by rw [h m hm]]

theorem ordered_of_dictionary? {α : Type} {read : Json → Option α} {members : List (String × Json)}
    {d : Dictionary α} (h : Json.dictionary? read members = some d) : d.Ordered := by
  obtain ⟨pairs, -, rfl⟩ := Option.map_eq_some_iff.mp h
  exact Dictionary.ordered_ofList pairs

/-- What a dictionary holds was read from a member. -/
theorem mem_of_dictionary? {α : Type} {read : Json → Option α} {members : List (String × Json)}
    {d : Dictionary α} (h : Json.dictionary? read members = some d) {p : String × α} (hp : p ∈ d) :
    ∃ m ∈ members, read m.2 = some p.2 := by
  obtain ⟨pairs, hpairs, rfl⟩ := Option.map_eq_some_iff.mp h
  obtain ⟨m, hm, hread⟩ := mem_of_mapM hpairs (Dictionary.mem_of_mem_ofList hp)
  obtain ⟨x, hx, rfl⟩ := Option.map_eq_some_iff.mp hread
  exact ⟨m, hm, hx⟩

theorem dictionary?_isSome {α : Type} {read : Json → Option α} {members : List (String × Json)} :
    (Json.dictionary? read members).isSome ↔ ∀ m ∈ members, (read m.2).isSome := by
  unfold Json.dictionary?
  rw [Option.isSome_map, mapM_isSome]
  simp

end Json

-- ============================================================ elements

namespace Element

section Levels

variable {element element' : Json → Option Element} {j : Json}

/-- Two readers agree on what is below `j`. -/
def AgreeBelow (element element' : Json → Option Element) (j : Json) : Prop :=
  ∀ k : Json, k.levels < j.levels → element k = element' k

theorem AgreeBelow.inside {k : Json} (h : AgreeBelow element element' j) (hk : Json.Inside k j) :
    AgreeBelow element element' k := fun l hl => h l (Nat.lt_trans hl hk.levels)

theorem list?_congr (h : AgreeBelow element element' j) : list? element j = list? element' j := by
  cases j with
  | array items => exact mapM_congr fun k hk => h k (Json.Inside.item hk).levels
  | _ => rfl

theorem args?_congr {args : Option Json}
    (h : ∀ k, some k = args → AgreeBelow element element' k) :
    args? element args = args? element' args := by
  cases args with
  | none => rfl
  | some k => exact list?_congr (h k rfl)

theorem overrides?_congr {overrides : Option Json}
    (h : ∀ k, some k = overrides → AgreeBelow element element' k) :
    overrides? element overrides = overrides? element' overrides := by
  unfold overrides?
  split
  · rfl
  · rfl
  · rename_i members
    refine congrArg _ (Json.dictionary?_congr fun m hm => ?_)
    unfold override
    rw [h _ rfl m.2 (Json.Inside.member hm).levels]
  · rfl

theorem asVariable?_congr (h : AgreeBelow element element' j) :
    asVariable? element j = asVariable? element' j := by
  unfold asVariable?
  cases hfields : j.fields? ["var_path"] with
  | none => rfl
  | some fields =>
      have hinside := fun k (hk : some k ∈ fields) => h.inside (Json.inside_of_field hfields hk)
      dsimp only [bind, Option.bind]
      split
      · rename_i path
        rw [list?_congr (hinside path (List.mem_cons_self ..))]
      · rfl

theorem asCall?_congr (h : AgreeBelow element element' j) :
    asCall? element j = asCall? element' j := by
  unfold asCall?
  cases hfields : j.fields? ["func", "args", "options"] with
  | none => rfl
  | some fields =>
      have hinside := fun k (hk : some k ∈ fields) => h.inside (Json.inside_of_field hfields hk)
      dsimp only [bind, Option.bind]
      split
      · rename_i args options
        rw [args?_congr fun k hk => hinside k (by rw [hk]; simp)]
      · rfl

theorem asReference?_congr (h : AgreeBelow element element' j) :
    asReference? element j = asReference? element' j := by
  unfold asReference?
  cases hfields : j.fields? ["res_id", "msg_path", "scope"] with
  | none => rfl
  | some fields =>
      have hinside := fun k (hk : some k ∈ fields) => h.inside (Json.inside_of_field hfields hk)
      dsimp only [bind, Option.bind]
      split
      · rename_i resource path overrides
        rw [list?_congr (hinside path (by simp)),
          overrides?_congr fun k hk => hinside k (by rw [hk]; simp)]
      · rfl

/-- As many steps as a document has levels are enough. -/
theorem atLevels?_eq : ∀ (m n : Nat) (j : Json), j.levels ≤ m → j.levels ≤ n →
    atLevels? m j = atLevels? n j
  | 0, _, j, hm, _ => absurd hm (Nat.not_le.mpr j.levels_pos)
  | _, 0, j, _, hn => absurd hn (Nat.not_le.mpr j.levels_pos)
  | m + 1, n + 1, j, hm, hn => by
      have hbelow : AgreeBelow (atLevels? m) (atLevels? n) j := fun k hk =>
        atLevels?_eq m n k (by omega) (by omega)
      rw [atLevels?, atLevels?, asVariable?_congr hbelow, asCall?_congr hbelow,
        asReference?_congr hbelow]

/-- A document is read the same way at every depth. -/
theorem ofJson?_eq (j : Json) :
    ofJson? j = ((Literal.ofJson? j).map .literal <|> asVariable? ofJson? j <|> asCall? ofJson? j
      <|> asReference? ofJson? j) := by
  have hbelow : AgreeBelow (atLevels? j.levels) ofJson? j := fun k hk =>
    atLevels?_eq j.levels k.levels k (Nat.le_of_lt hk) (Nat.le_refl _)
  show atLevels? j.levels j = _
  rw [atLevels?_eq j.levels (j.levels + 1) j (Nat.le_refl _) (Nat.le_succ _), atLevels?,
    asVariable?_congr hbelow, asCall?_congr hbelow, asReference?_congr hbelow]

end Levels

variable {j : Json} {e : Element}

/-- What an element is read from: a document of one of the alternatives,
and documents inside it for its parts. -/
inductive ReadFrom (j : Json) : Element → Prop where
  | asLiteral {l : Literal} (h : Literal.ofJson? j = some l) : ReadFrom j (.literal l)
  | asVariable {k : Json} {path : List Element} (hk : Json.Inside k j)
    (hpath : list? ofJson? k = some path) : ReadFrom j (.variable path)
  | asCall {name : String} {a o : Option Json} {args : List Element} {options : Options}
    (hname : Json.Inside (.string name) j) (ha : ∀ k, some k = a → Json.Inside k j)
    (ho : ∀ k, some k = o → Json.Inside k j) (hargs : args? ofJson? a = some args)
    (hoptions : options? o = some options) : ReadFrom j (.call name args options)
  | asReference {k : Json} {o : Option Json} {path : List Element}
    {overrides : Option (List (String × Override))} (resource : Option String)
    (hk : Json.Inside k j) (ho : ∀ k, some k = o → Json.Inside k j)
    (hpath : list? ofJson? k = some path) (hoverrides : overrides? ofJson? o = some overrides) :
    ReadFrom j (.message resource path overrides)

/-- An override that is an element was read as one. -/
theorem ofJson?_of_override (h : Override.ofJson j = .element e) : ofJson? j = some e := by
  unfold Override.ofJson override at h
  cases hread : ofJson? j with
  | none =>
      rw [hread] at h
      exact nomatch h
  | some e' =>
      rw [hread] at h
      cases h
      rfl

/-- Overrides are read from the members of an object. -/
theorem overrides_read_from {o : Option Json} {bs : List (String × Override)}
    (h : overrides? ofJson? o = some (some bs)) :
    ∃ members, o = some (.object members) ∧ Dictionary.Ordered bs ∧
      ∀ b ∈ bs, ∃ m ∈ members, b.2 = Override.ofJson m.2 := by
  unfold overrides? at h
  split at h
  · exact nomatch h
  · exact nomatch h
  · rename_i members
    obtain ⟨d, hd, heq⟩ := Option.map_eq_some_iff.mp h
    cases heq
    refine ⟨members, rfl, Json.ordered_of_dictionary? hd, fun b hb => ?_⟩
    obtain ⟨m, hm, hread⟩ := Json.mem_of_dictionary? hd hb
    exact ⟨m, hm, (Option.some.inj hread).symm⟩
  · exact nomatch h

theorem readFrom_of_asVariable? (h : asVariable? ofJson? j = some e) : ReadFrom j e := by
  obtain ⟨fields, hfields, h⟩ := Option.bind_eq_some_iff.mp h
  split at h
  · obtain ⟨path, hpath, h⟩ := Option.bind_eq_some_iff.mp h
    cases h
    exact .asVariable (Json.inside_of_field hfields (List.mem_cons_self ..)) hpath
  · exact nomatch h

theorem readFrom_of_asCall? (h : asCall? ofJson? j = some e) : ReadFrom j e := by
  obtain ⟨fields, hfields, h⟩ := Option.bind_eq_some_iff.mp h
  split at h
  · obtain ⟨args, hargs, h⟩ := Option.bind_eq_some_iff.mp h
    obtain ⟨options, hoptions, h⟩ := Option.bind_eq_some_iff.mp h
    cases h
    exact .asCall (Json.inside_of_field hfields (List.mem_cons_self ..))
      (fun k hk => Json.inside_of_field hfields (by rw [hk]; simp))
      (fun k hk => Json.inside_of_field hfields (by rw [hk]; simp)) hargs hoptions
  · exact nomatch h

theorem readFrom_of_asReference? (h : asReference? ofJson? j = some e) : ReadFrom j e := by
  obtain ⟨fields, hfields, h⟩ := Option.bind_eq_some_iff.mp h
  split at h
  · obtain ⟨resource, -, h⟩ := Option.bind_eq_some_iff.mp h
    obtain ⟨path, hpath, h⟩ := Option.bind_eq_some_iff.mp h
    obtain ⟨overrides, hoverrides, h⟩ := Option.bind_eq_some_iff.mp h
    cases h
    exact .asReference resource (Json.inside_of_field hfields (by simp))
      (fun k hk => Json.inside_of_field hfields (by rw [hk]; simp)) hpath hoverrides
  · exact nomatch h

theorem readFrom_of_ofJson? (h : ofJson? j = some e) : ReadFrom j e := by
  rw [ofJson?_eq] at h
  rcases (Option.orElse_eq_some ..).mp h with h | ⟨-, h⟩
  · obtain ⟨l, hl, rfl⟩ := Option.map_eq_some_iff.mp h
    exact .asLiteral hl
  rcases (Option.orElse_eq_some ..).mp h with h | ⟨-, h⟩
  · exact readFrom_of_asVariable? h
  rcases (Option.orElse_eq_some ..).mp h with h | ⟨-, h⟩
  · exact readFrom_of_asCall? h
  · exact readFrom_of_asReference? h

/-- What holds of an element whenever it holds of all that is read below
its document holds of every element that is read. -/
theorem ofJson?_induction {P : Json → Element → Prop}
    (h : ∀ {j e}, (∀ k : Json, k.levels < j.levels → ∀ e, ofJson? k = some e → P k e) →
      ReadFrom j e → P j e) (j : Json) : ∀ e, ofJson? j = some e → P j e := by
  induction hlevels : j.levels using Nat.strong_induction_on generalizing j with
  | _ n ih =>
    subst hlevels
    exact fun e he => h (fun k hk => ih _ hk k rfl) (readFrom_of_ofJson? he)

end Element

-- ============================================================ messages

section Messages

variable {j : Json}

theorem Selector.read_from {s : Selector} (h : Selector.ofJson? j = some s) :
    ∃ k, Json.Inside k j ∧ Element.ofJson? k = some s.value := by
  obtain ⟨fields, hfields, h⟩ := Option.bind_eq_some_iff.mp h
  split at h
  · obtain ⟨value, hvalue, h⟩ := Option.bind_eq_some_iff.mp h
    obtain ⟨default, -, h⟩ := Option.bind_eq_some_iff.mp h
    cases h
    exact ⟨_, Json.inside_of_field hfields (List.mem_cons_self ..), hvalue⟩
  · exact nomatch h

theorem Case.read_from {c : Case} (h : Case.ofJson? j = some c) :
    ∃ k, Json.Inside k j ∧ Pattern.ofJson? k = some c.pattern := by
  obtain ⟨fields, hfields, h⟩ := Option.bind_eq_some_iff.mp h
  split at h
  · obtain ⟨keys, -, h⟩ := Option.bind_eq_some_iff.mp h
    obtain ⟨pattern, hpattern, h⟩ := Option.bind_eq_some_iff.mp h
    cases h
    exact ⟨_, Json.inside_of_field hfields (by simp), hpattern⟩
  · exact nomatch h

theorem Selection.read_from {s : Selection} (h : Selection.ofJson? j = some s) :
    ∃ selectors cases, Json.Inside (.array selectors) j ∧ Json.Inside (.array cases) j ∧
      selectors.mapM Selector.ofJson? = some s.selectors ∧
      cases.mapM Case.ofJson? = some s.cases := by
  obtain ⟨fields, hfields, h⟩ := Option.bind_eq_some_iff.mp h
  split at h
  · obtain ⟨selectors, hselectors, h⟩ := Option.bind_eq_some_iff.mp h
    obtain ⟨cases, hcases, h⟩ := Option.bind_eq_some_iff.mp h
    cases h
    exact ⟨_, _, Json.inside_of_field hfields (List.mem_cons_self ..),
      Json.inside_of_field hfields (by simp), hselectors, hcases⟩
  · exact nomatch h

theorem Message.read_from {m : Message} (h : Message.ofJson? j = some m) :
    ∃ k, Json.Inside k j ∧ Message.ofBody? k = some m := by
  obtain ⟨fields, hfields, h⟩ := Option.bind_eq_some_iff.mp h
  split at h
  · exact ⟨_, Json.inside_of_field hfields (List.mem_cons_self ..), h⟩
  · exact nomatch h

/-- The body of a message is read from a pattern or from a selection. -/
theorem Message.body_read_from {m : Message} (h : Message.ofBody? j = some m) :
    (∃ p, m = .pattern p ∧ Pattern.ofJson? j = some p) ∨
      ∃ s, m = .select s ∧ Selection.ofJson? j = some s := by
  rcases (Option.orElse_eq_some ..).mp h with h | ⟨-, h⟩
  · obtain ⟨p, hp, rfl⟩ := Option.map_eq_some_iff.mp h
    exact .inl ⟨p, rfl, hp⟩
  · obtain ⟨s, hs, rfl⟩ := Option.map_eq_some_iff.mp h
    exact .inr ⟨s, rfl, hs⟩

end Messages

-- ============================================================= entries

namespace Entry

/-- A group: the record of `entries`. -/
def asGroup? (entry : Json → Option Entry) (j : Json) : Option Entry := do
  match ← j.fields? ["entries"] with
  | [some (.object members)] => return .group (← Json.dictionary? entry members)
  | _ => none

theorem asGroup?_congr {entry entry' : Json → Option Entry} {j : Json}
    (h : ∀ k : Json, k.levels < j.levels → entry k = entry' k) :
    asGroup? entry j = asGroup? entry' j := by
  unfold asGroup?
  cases hfields : j.fields? ["entries"] with
  | none => rfl
  | some fields =>
      dsimp only [bind, Option.bind]
      split
      · rename_i members
        have hinside := Json.inside_of_field hfields (List.mem_cons_self ..)
        rw [Json.dictionary?_congr fun m hm =>
          h m.2 (Nat.lt_trans (Json.Inside.member hm).levels hinside.levels)]
      · rfl

theorem atLevels?_succ (n : Nat) (j : Json) :
    atLevels? (n + 1) j = ((Message.ofJson? j).map .message <|> asGroup? (atLevels? n) j) := rfl

theorem atLevels?_eq : ∀ (m n : Nat) (j : Json), j.levels ≤ m → j.levels ≤ n →
    atLevels? m j = atLevels? n j
  | 0, _, j, hm, _ => absurd hm (Nat.not_le.mpr j.levels_pos)
  | _, 0, j, _, hn => absurd hn (Nat.not_le.mpr j.levels_pos)
  | m + 1, n + 1, j, hm, hn => by
      rw [atLevels?_succ, atLevels?_succ, asGroup?_congr fun k hk =>
        atLevels?_eq m n k (by omega) (by omega)]

/-- A document is read the same way at every depth: as a message, or else
as a group. -/
theorem ofJson?_eq (j : Json) :
    ofJson? j = ((Message.ofJson? j).map .message <|> asGroup? ofJson? j) := by
  show atLevels? j.levels j = _
  rw [atLevels?_eq j.levels (j.levels + 1) j (Nat.le_refl _) (Nat.le_succ _), atLevels?_succ,
    asGroup?_congr fun k hk =>
      atLevels?_eq j.levels k.levels k (Nat.le_of_lt hk) (Nat.le_refl _)]
  rfl

/-- What an entry is read from: a message, or the members of a group. -/
inductive ReadFrom (j : Json) : Entry → Prop where
  | asMessage {m : Message} (h : Message.ofJson? j = some m) : ReadFrom j (.message m)
  | asGroup {members : List (String × Json)} {entries : Dictionary Entry}
    (hmembers : Json.Inside (.object members) j)
    (hentries : Json.dictionary? ofJson? members = some entries) : ReadFrom j (.group entries)

theorem readFrom_of_ofJson? {j : Json} {e : Entry} (h : ofJson? j = some e) : ReadFrom j e := by
  rw [ofJson?_eq] at h
  rcases (Option.orElse_eq_some ..).mp h with h | ⟨-, h⟩
  · obtain ⟨m, hm, rfl⟩ := Option.map_eq_some_iff.mp h
    exact .asMessage hm
  obtain ⟨fields, hfields, h⟩ := Option.bind_eq_some_iff.mp h
  split at h
  · obtain ⟨entries, hentries, h⟩ := Option.bind_eq_some_iff.mp h
    cases h
    exact .asGroup (Json.inside_of_field hfields (List.mem_cons_self ..)) hentries
  · exact nomatch h

/-- What holds of an entry whenever it holds of all that is read below its
document holds of every entry that is read. -/
theorem ofJson?_induction {P : Json → Entry → Prop}
    (h : ∀ {j e}, (∀ k : Json, k.levels < j.levels → ∀ e, ofJson? k = some e → P k e) →
      ReadFrom j e → P j e) (j : Json) : ∀ e, ofJson? j = some e → P j e := by
  induction hlevels : j.levels using Nat.strong_induction_on generalizing j with
  | _ n ih =>
    subst hlevels
    exact fun e he => h (fun k hk => ih _ hk k rfl) (readFrom_of_ofJson? he)

end Entry

end MessageCatalog
