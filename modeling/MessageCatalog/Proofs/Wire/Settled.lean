/-
What is read is in order, and nested no deeper than its document.

Whatever the document was, the elements read from it hold dictionaries
in order, and when they are printed again the text is nested no deeper
(`Element.settled_of_ofJson?`): every part of an element was read from a
document inside its own, where this holds already. Selectors, cases and
messages are made of elements (`Message.settled`).
-/
import MessageCatalog.Proofs.Wire.Pattern

namespace MessageCatalog

namespace Json

theorem Inside.nesting {j k : Json} (h : Inside k j) : k.nesting < j.nesting := by
  cases h with
  | item h => exact Nat.lt_succ_of_le (nestingOfItems_le_iff.mp (Nat.le_refl _) _ h)
  | member h => exact Nat.lt_succ_of_le (nestingOfMembers_le_iff.mp (Nat.le_refl _) _ h)

end Json

open Json (Inside nestingOfItems nestingOfMembers nestingOfItems_le_iff nestingOfMembers_le_iff
  nestingOfMembers_append)

theorem Literal.nesting_toJson (l : Literal) : l.toJson.nesting = 0 := by
  cases l <;> rfl

namespace Element

theorem orderedIn_iff {es : List Element} : OrderedIn es ↔ ∀ e ∈ es, e.Ordered := by
  induction es with
  | nil => simp [OrderedIn]
  | cons e es ih => simp [OrderedIn, ih]

theorem mem_toItems {es : List Element} {j : Json} (h : j ∈ toItems es) :
    ∃ e ∈ es, j = e.toJson := by
  induction es with
  | nil => exact nomatch h
  | cons e es ih =>
      rcases List.mem_cons.mp h with rfl | h
      · exact ⟨e, List.mem_cons_self .., rfl⟩
      · obtain ⟨e', he', heq⟩ := ih h
        exact ⟨e', List.mem_cons_of_mem _ he', heq⟩

/-- An element is in order, and its document is nested at most so deep. -/
def Settled (n : Nat) (e : Element) : Prop := e.Ordered ∧ e.toJson.nesting ≤ n

variable {j : Json}

/-- What is read below `j` is settled. -/
def SettledBelow (j : Json) : Prop :=
  ∀ k : Json, k.levels < j.levels → ∀ e, ofJson? k = some e → Settled k.nesting e

theorem SettledBelow.inside {k : Json} (h : SettledBelow j) (hk : Inside k j) : SettledBelow k :=
  fun l hl => h l (Nat.lt_trans hl hk.levels)

theorem settledIn_of_list? {es : List Element} (hbelow : SettledBelow j)
    (h : list? ofJson? j = some es) :
    OrderedIn es ∧ nestingOfItems (toItems es) + 1 ≤ j.nesting := by
  cases j with
  | array items =>
      have hsettled : ∀ e ∈ es, e.Ordered ∧ e.toJson.nesting ≤ nestingOfItems items := by
        intro e he
        obtain ⟨k, hk, hread⟩ := mem_of_mapM h he
        obtain ⟨hordered, hnesting⟩ := hbelow k (Inside.item hk).levels e hread
        exact ⟨hordered, Nat.le_trans hnesting (nestingOfItems_le_iff.mp (Nat.le_refl _) k hk)⟩
      refine ⟨orderedIn_iff.mpr fun e he => (hsettled e he).1, Nat.succ_le_succ ?_⟩
      refine nestingOfItems_le_iff.mpr fun k hk => ?_
      obtain ⟨e, he, rfl⟩ := mem_toItems hk
      exact (hsettled e he).2
  | null => exact nomatch h
  | bool _ => exact nomatch h
  | integer _ => exact nomatch h
  | decimal _ => exact nomatch h
  | string _ => exact nomatch h
  | object _ => exact nomatch h

theorem ordered_of_options? {options : Options} {field : Option Json}
    (h : options? field = some options) : Dictionary.Ordered options := by
  unfold options? at h
  split at h
  · cases h
    exact Dictionary.ordered_nil
  · exact Json.ordered_of_dictionary? h
  · exact nomatch h

/-- Written options hold nothing but leaves. -/
theorem optionsToJson_nesting (options : Options) : (optionsToJson options).nesting ≤ 1 := by
  refine Nat.succ_le_succ (nestingOfMembers_le_iff.mpr fun m hm => ?_)
  obtain ⟨⟨name, l⟩, -, rfl⟩ := List.mem_map.mp hm
  cases l <;> exact Nat.le_refl _

/-- Options that are written were read from an object. -/
theorem optionsField_nesting {options : Options} {field : Option Json}
    (h : options? field = some options) {n : Nat} (hfield : ∀ k, some k = field → k.nesting ≤ n) :
    nestingOfMembers (Json.optional "options" (optionsField options)) ≤ n := by
  have hwritten := optionsToJson_nesting options
  unfold options? at h
  split at h
  · cases h
    exact Nat.zero_le _
  · have hobject := hfield _ rfl
    rw [Json.nesting] at hobject
    unfold optionsField
    split
    · exact Nat.zero_le _
    · simp only [Json.optional, nestingOfMembers]
      omega
  · cases h

theorem settledIn_of_args? {args : List Element} {field : Option Json}
    (hbelow : ∀ k, some k = field → SettledBelow k) (h : args? ofJson? field = some args) {n : Nat}
    (hfield : ∀ k, some k = field → k.nesting ≤ n) :
    OrderedIn args ∧ nestingOfMembers (Json.optional "args" (argsField args)) ≤ n := by
  cases field with
  | none =>
      cases h
      exact ⟨trivial, Nat.zero_le _⟩
  | some k =>
      obtain ⟨hordered, hnesting⟩ := settledIn_of_list? (hbelow k rfl) h
      refine ⟨hordered, ?_⟩
      have hk := hfield k rfl
      unfold argsField
      split
      · exact Nat.zero_le _
      · simp only [Json.optional, nestingOfMembers, Json.nesting]
        omega

theorem orderedOf_iff {bs : List (String × Override)} :
    OrderedOf bs ↔
      ∀ b ∈ bs, (∀ e, b.2 = .element e → e.Ordered) ∧ ∀ v, b.2 = .value v → v.Ordered := by
  induction bs with
  | nil => simp [OrderedOf]
  | cons b bs ih =>
      obtain ⟨name, o⟩ := b
      cases o <;> simp [OrderedOf, ih]

theorem mem_toMembers {bs : List (String × Override)} {m : String × Json} (h : m ∈ toMembers bs) :
    ∃ o, (m.1, o) ∈ bs ∧ m.2 = o.toJson := by
  induction bs with
  | nil => exact nomatch h
  | cons b bs ih =>
      obtain ⟨name, o⟩ := b
      have hcons : toMembers ((name, o) :: bs) = (name, o.toJson) :: toMembers bs := by
        cases o <;> rfl
      rw [hcons] at h
      rcases List.mem_cons.mp h with rfl | h
      · exact ⟨o, List.mem_cons_self .., rfl⟩
      · obtain ⟨o', ho', heq⟩ := ih h
        exact ⟨o', List.mem_cons_of_mem _ ho', heq⟩

/-- An override that is read is in order, and nested no deeper than its
document. -/
theorem settled_override {k : Json} (h : ∀ e, ofJson? k = some e → Settled k.nesting e) :
    (∀ e, Override.ofJson k = .element e → e.Ordered) ∧
      (∀ v, Override.ofJson k = .value v → v.Ordered) ∧
      (Override.ofJson k).toJson.nesting ≤ k.nesting := by
  unfold Override.ofJson override
  cases hread : ofJson? k with
  | some e =>
      have hsettled := h e hread
      refine ⟨fun e' he' => ?_, fun v hv => (nomatch hv), hsettled.2⟩
      cases he'
      exact hsettled.1
  | none =>
      have hvalue := Value.ordered_ofJson k
      refine ⟨fun e he => (nomatch he), fun v hv => ?_, hvalue.2⟩
      cases hv
      exact hvalue.1

theorem settled_of_overrides? {overrides : Option (List (String × Override))} {field : Option Json}
    (hbelow : ∀ k, some k = field → SettledBelow k) (h : overrides? ofJson? field = some overrides)
    {n : Nat} (hfield : ∀ k, some k = field → k.nesting ≤ n) :
    (∀ bs, overrides = some bs → Dictionary.Ordered bs ∧ OrderedOf bs) ∧
      nestingOfMembers (Json.optional "scope" (scopeField overrides)) ≤ n := by
  cases overrides with
  | none => exact ⟨fun _ h => (nomatch h), Nat.zero_le _⟩
  | some bs =>
      obtain ⟨members, rfl, hordered, hread⟩ := overrides_read_from h
      have hobject := hfield _ rfl
      rw [Json.nesting] at hobject
      have hsettled := fun (m : String × Json) (hm : m ∈ members) =>
        settled_override (hbelow _ rfl m.2 (Inside.member hm).levels)
      refine ⟨fun bs' hbs' => ?_, ?_⟩
      · cases hbs'
        refine ⟨hordered, orderedOf_iff.mpr fun b hb => ?_⟩
        obtain ⟨m, hm, heq⟩ := hread b hb
        rw [heq]
        exact ⟨(hsettled m hm).1, (hsettled m hm).2.1⟩
      · simp only [scopeField, Option.map_some, Json.optional, nestingOfMembers, Json.nesting]
        have hmembers : nestingOfMembers (toMembers bs) ≤ nestingOfMembers members :=
          nestingOfMembers_le_iff.mpr fun m hm => by
            obtain ⟨o, ho, heq⟩ := mem_toMembers hm
            obtain ⟨m', hm', heq'⟩ := hread _ ho
            rw [heq, show o = _ from heq']
            exact Nat.le_trans (hsettled m' hm').2.2
              (nestingOfMembers_le_iff.mp (Nat.le_refl _) m' hm')
        omega

/-- An element is settled if what is read below its document is. -/
theorem settled_of_readFrom {e : Element} (hbelow : SettledBelow j) (h : ReadFrom j e) :
    Settled j.nesting e := by
  cases h with
  | asLiteral h =>
      refine ⟨trivial, ?_⟩
      rw [toJson, Literal.nesting_toJson]
      exact Nat.zero_le _
  | asVariable hk hpath =>
      obtain ⟨hordered, hnesting⟩ := settledIn_of_list? (hbelow.inside hk) hpath
      have hlt := hk.nesting
      refine ⟨hordered, ?_⟩
      simp only [toJson, Json.nesting, nestingOfMembers]
      omega
  | asCall hname ha ho hargs hoptions =>
      have hpos := hname.nesting
      obtain ⟨hordered, hnesting⟩ := settledIn_of_args? (fun k hk => hbelow.inside (ha k hk)) hargs
        fun k hk => Nat.le_sub_one_of_lt (ha k hk).nesting
      have hnesting' := optionsField_nesting hoptions
        fun k hk => Nat.le_sub_one_of_lt (ho k hk).nesting
      refine ⟨⟨hordered, ordered_of_options? hoptions⟩, ?_⟩
      rw [toJson_call]
      simp only [Json.nesting, nestingOfMembers, nestingOfMembers_append]
      omega
  | @asReference k o path overrides resource hk ho hpath hoverrides =>
      have hlt := hk.nesting
      obtain ⟨hordered, hnesting⟩ := settledIn_of_list? (hbelow.inside hk) hpath
      obtain ⟨hordered', hnesting'⟩ := settled_of_overrides?
        (fun k hk => hbelow.inside (ho k hk)) hoverrides
        fun k hk => Nat.le_sub_one_of_lt (ho k hk).nesting
      have hresource :
          nestingOfMembers (Json.optional "res_id" (resource.map Json.string)) = 0 := by
        cases resource <;> rfl
      refine ⟨?_, ?_⟩
      · cases overrides with
        | none => exact hordered
        | some bs => exact ⟨hordered, hordered' bs rfl⟩
      · rw [toJson_message]
        simp only [Json.nesting, nestingOfMembers, nestingOfMembers_append]
        omega

/-- What is read as an element is in order, and its document is nested no
deeper than the one it was read from. -/
theorem settled_of_ofJson? (j : Json) : ∀ e, ofJson? j = some e → Settled j.nesting e :=
  ofJson?_induction settled_of_readFrom j

theorem settledBelow (j : Json) : SettledBelow j := fun k _ => settled_of_ofJson? k

end Element

-- ============================================================ messages

variable {j : Json}

theorem Selector.settled {s : Selector} (h : Selector.ofJson? j = some s) :
    s.value.Ordered ∧ s.toJson.nesting ≤ j.nesting := by
  obtain ⟨k, hk, hvalue⟩ := read_from h
  obtain ⟨hordered, hnesting⟩ := Element.settled_of_ofJson? k s.value hvalue
  have hlt := hk.nesting
  have hdefault :
      nestingOfMembers (Json.optional "default" (s.default.map Literal.toJson)) = 0 := by
    cases s.default with
    | none => rfl
    | some l => simp [Json.optional, nestingOfMembers, Literal.nesting_toJson]
  refine ⟨hordered, ?_⟩
  simp only [toJson, Json.nesting, nestingOfMembers]
  omega

theorem Case.settled {c : Case} (h : Case.ofJson? j = some c) :
    Element.OrderedIn c.pattern ∧ c.toJson.nesting ≤ j.nesting := by
  obtain ⟨k, hk, hpattern⟩ := read_from h
  obtain ⟨hordered, hnesting⟩ := Element.settledIn_of_list? (Element.settledBelow k) hpattern
  have hlt := hk.nesting
  have hkeys : nestingOfItems (c.keys.map Literal.toJson) = 0 :=
    Nat.le_zero.mp <| nestingOfItems_le_iff.mpr fun k hk => by
      obtain ⟨l, -, rfl⟩ := List.mem_map.mp hk
      exact Nat.le_of_eq (Literal.nesting_toJson l)
  refine ⟨hordered, ?_⟩
  simp only [toJson, Json.nesting, nestingOfMembers, Pattern.toJson]
  omega

theorem nestingOfItems_map_le {α : Type} {read : Json → Option α} {toJson : α → Json}
    {items : List Json} {xs : List α} (h : items.mapM read = some xs)
    (hread : ∀ k x, read k = some x → (toJson x).nesting ≤ k.nesting) :
    nestingOfItems (xs.map toJson) ≤ nestingOfItems items := by
  refine nestingOfItems_le_iff.mpr fun k hk => ?_
  obtain ⟨x, hx, rfl⟩ := List.mem_map.mp hk
  obtain ⟨k', hk', hx'⟩ := mem_of_mapM h hx
  exact Nat.le_trans (hread k' x hx') (nestingOfItems_le_iff.mp (Nat.le_refl _) k' hk')

theorem Selection.settled {s : Selection} (h : Selection.ofJson? j = some s) :
    (Message.select s).Ordered ∧ s.toJson.nesting ≤ j.nesting := by
  obtain ⟨selectors, cases, hselectors, hcases, hss, hcs⟩ := read_from h
  have hlt := hselectors.nesting
  have hlt' := hcases.nesting
  rw [Json.nesting] at hlt hlt'
  have hnesting := nestingOfItems_map_le hss fun _ _ h => (Selector.settled h).2
  have hnesting' := nestingOfItems_map_le hcs fun _ _ h => (Case.settled h).2
  refine ⟨⟨fun s hs => ?_, fun c hc => ?_⟩, ?_⟩
  · obtain ⟨k, -, hk⟩ := mem_of_mapM hss hs
    exact (Selector.settled hk).1
  · obtain ⟨k, -, hk⟩ := mem_of_mapM hcs hc
    exact (Case.settled hk).1
  · simp only [toJson, Json.nesting, nestingOfMembers]
    omega

theorem Message.settled_body {m : Message} (h : Message.ofBody? j = some m) :
    m.Ordered ∧ m.body.nesting ≤ j.nesting := by
  rcases body_read_from h with ⟨p, rfl, hp⟩ | ⟨s, rfl, hs⟩
  · exact Element.settledIn_of_list? (Element.settledBelow j) hp
  · exact Selection.settled hs

theorem Message.settled {m : Message} (h : Message.ofJson? j = some m) :
    m.Ordered ∧ m.toJson.nesting ≤ j.nesting := by
  obtain ⟨k, hk, hbody⟩ := read_from h
  obtain ⟨hordered, hnesting⟩ := settled_body hbody
  have hlt := hk.nesting
  refine ⟨hordered, ?_⟩
  simp only [toJson, Json.nesting, nestingOfMembers]
  omega

end MessageCatalog
