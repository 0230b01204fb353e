/-
Elements and messages are read back.

The document of an element is always read as an element. It is the same
element, but for what references bind (`Element.reread`): a value whose
document has the shape of an element comes back as that element. So an
element comes back exactly if no reference in it binds such a value
(`Element.reread_eq_iff`), and the same holds of a message
(`Message.ofJson?_toJson`, `Message.reread_eq_iff`).

The alternatives of an element are told apart by the names of their
fields. For every alternative it is shown that those before it do not
read its document, with whatever fields left out.
-/
import MessageCatalog.Proofs.Wire.Value
import MessageCatalog.Proofs.References

namespace MessageCatalog

namespace Element

mutual

/-- All options, overrides and maps in an element are dictionaries. -/
def Ordered : Element → Prop
  | .literal _ => True
  | .variable path => OrderedIn path
  | .call _ args options => OrderedIn args ∧ Dictionary.Ordered options
  | .message _ path none => OrderedIn path
  | .message _ path (some overrides) =>
    OrderedIn path ∧ Dictionary.Ordered overrides ∧ OrderedOf overrides

/-- All options, overrides and maps in elements are dictionaries. -/
def OrderedIn : List Element → Prop
  | [] => True
  | e :: rest => Ordered e ∧ OrderedIn rest

/-- All options, overrides and maps below overrides are dictionaries. -/
def OrderedOf : List (String × Override) → Prop
  | [] => True
  | (_, .element e) :: rest => Ordered e ∧ OrderedOf rest
  | (_, .value v) :: rest => v.Ordered ∧ OrderedOf rest

end

mutual

/-- What the document of an element is read as: the element itself, but
for values that are read as elements. -/
def reread : Element → Element
  | .literal l => .literal l
  | .variable path => .variable (rereadIn path)
  | .call name args options => .call name (rereadIn args) options
  | .message resource path none => .message resource (rereadIn path) none
  | .message resource path (some overrides) =>
    .message resource (rereadIn path) (some (rereadOf overrides))

/-- What the documents of elements are read as. -/
def rereadIn : List Element → List Element
  | [] => []
  | e :: rest => reread e :: rereadIn rest

/-- What the documents of overrides are read as. -/
def rereadOf : List (String × Override) → List (String × Override)
  | [] => []
  | (name, .element e) :: rest => (name, .element (reread e)) :: rereadOf rest
  | (name, .value v) :: rest => (name, .ofJson v.toJson) :: rereadOf rest

end

theorem dictionary?_options {options : Options} (h : Dictionary.Ordered options) :
    Json.dictionary? Literal.ofJson? (options.map fun (name, l) => (name, l.toJson))
      = some options := by
  have hread : ∀ o ∈ options, (Literal.ofJson? (Literal.toJson o.2)).map (fun x => (o.1, x))
      = some o := fun o _ => by
    rw [Literal.ofJson?_toJson]
    rfl
  unfold Json.dictionary?
  rw [mapM_map_of_forall hread, List.map_id', Option.map_some,
    Dictionary.ofList_of_ordered h]

theorem ofJson?_variable {path path' : List Element}
    (hpath : (toItems path).mapM ofJson? = some path') :
    ofJson? (Element.variable path).toJson = some (.variable path') := by
  have hvariable : asVariable? ofJson? (Element.variable path).toJson = some (.variable path') := by
    show (list? ofJson? (.array (toItems path))).bind _ = _
    rw [list?, hpath]
    rfl
  rw [ofJson?_eq, hvariable]
  rfl

/-- The arguments of a call as a field. -/
def argsField (args : List Element) : Option Json :=
  if args.isEmpty then none else some (.array (toItems args))

/-- The options of a call as a field. -/
def optionsField (options : Options) : Option Json :=
  if options.isEmpty then none else some (optionsToJson options)

theorem toJson_call (name : String) (args : List Element) (options : Options) :
    (Element.call name args options).toJson = .object (("func", .string name)
      :: (Json.optional "args" (argsField args)
        ++ Json.optional "options" (optionsField options))) := by
  rw [toJson]
  cases args <;> cases options <;> rfl

theorem ofJson?_call (name : String) {args args' : List Element} {options : Options}
    (hargs : (toItems args).mapM ofJson? = some args') (hoptions : Dictionary.Ordered options) :
    ofJson? (Element.call name args options).toJson = some (.call name args' options) := by
  have hargsField : args? ofJson? (argsField args) = some args' := by
    unfold argsField
    split
    · rename_i hempty
      rw [List.isEmpty_iff.mp hempty, toItems, mapM_nil_iff] at hargs
      subst hargs
      rfl
    · exact hargs
  have hoptionsField : options? (optionsField options) = some options := by
    unfold optionsField
    split
    · rename_i hempty
      rw [List.isEmpty_iff.mp hempty]
      rfl
    · exact dictionary?_options hoptions
  rw [toJson_call]
  generalize argsField args = a at hargsField ⊢
  generalize optionsField options = o at hoptionsField ⊢
  have hfields : (Json.object (("func", .string name)
      :: (Json.optional "args" a ++ Json.optional "options" o))).fields? ["func", "args", "options"]
      = some [some (.string name), a, o] := by
    cases a <;> cases o <;> rfl
  have hvariable : asVariable? ofJson? (Json.object (("func", .string name)
      :: (Json.optional "args" a ++ Json.optional "options" o))) = none := by
    cases a <;> cases o <;> rfl
  rw [ofJson?_eq, hvariable, asCall?, hfields]
  dsimp only [bind, Option.bind]
  rw [hargsField, hoptionsField]
  rfl

/-- The overrides of a reference as a field. -/
def scopeField (overrides : Option (List (String × Override))) : Option Json :=
  overrides.map fun bs => .object (toMembers bs)

theorem toJson_message (resource : Option String) (path : List Element)
    (overrides : Option (List (String × Override))) :
    (Element.message resource path overrides).toJson
      = .object (Json.optional "res_id" (resource.map .string)
        ++ ("msg_path", .array (toItems path))
          :: Json.optional "scope" (scopeField overrides)) := by
  cases overrides <;> rfl

theorem ofJson?_message (resource : Option String) {path path' : List Element}
    {overrides overrides' : Option (List (String × Override))}
    (hpath : (toItems path).mapM ofJson? = some path')
    (hoverrides : overrides? ofJson? (scopeField overrides) = some overrides') :
    ofJson? (Element.message resource path overrides).toJson
      = some (.message resource path' overrides') := by
  have hresource : resource? (resource.map .string) = some resource := by
    cases resource <;> rfl
  have hpathField : list? ofJson? (.array (toItems path)) = some path' := hpath
  rw [toJson_message]
  generalize resource.map Json.string = r at hresource ⊢
  generalize Json.array (toItems path) = p at hpathField ⊢
  generalize scopeField overrides = s at hoverrides ⊢
  have hfields : (Json.object (Json.optional "res_id" r ++ ("msg_path", p)
      :: Json.optional "scope" s)).fields? ["res_id", "msg_path", "scope"]
      = some [r, some p, s] := by
    cases r <;> cases s <;> rfl
  have hvariable : asVariable? ofJson? (Json.object (Json.optional "res_id" r ++ ("msg_path", p)
      :: Json.optional "scope" s)) = none := by
    cases r <;> cases s <;> rfl
  have hcall : asCall? ofJson? (Json.object (Json.optional "res_id" r ++ ("msg_path", p)
      :: Json.optional "scope" s)) = none := by
    cases r <;> cases s <;> rfl
  rw [ofJson?_eq, hvariable, hcall, asReference?, hfields]
  dsimp only [bind, Option.bind]
  rw [hresource, hpathField, hoverrides]
  rfl

theorem overrides?_scopeField {bs bs' : List (String × Override)}
    (hread : (toMembers bs).map (fun m => (m.1, Override.ofJson m.2)) = bs')
    (hordered : Dictionary.Ordered bs') :
    overrides? ofJson? (scopeField (some bs)) = some (some bs') := by
  have hmembers : (toMembers bs).mapM (fun m => (some (override ofJson? m.2)).map fun x => (m.1, x))
      = some ((toMembers bs).map fun m => (m.1, Override.ofJson m.2)) :=
    mapM_of_forall fun _ _ => rfl
  show ((Json.dictionary? (fun j => some (override ofJson? j)) (toMembers bs)).map some) = _
  unfold Json.dictionary?
  rw [hmembers, hread, Option.map_some, Dictionary.ofList_of_ordered hordered]
  rfl

theorem rereadOf_names (bs : List (String × Override)) :
    (rereadOf bs).map Prod.fst = bs.map Prod.fst := by
  induction bs with
  | nil => rfl
  | cons b bs ih =>
      obtain ⟨name, _ | _⟩ := b <;> rw [rereadOf, List.map_cons, List.map_cons, ih]

mutual

/-- The document of an element is read as an element. -/
theorem ofJson?_toJson : ∀ e : Element, e.Ordered → ofJson? e.toJson = some e.reread
  | .literal l, _ => by
      rw [ofJson?_eq, toJson, Literal.ofJson?_toJson]
      rfl
  | .variable path, h => ofJson?_variable (ofJson?_toItems path h)
  | .call name args options, h => ofJson?_call name (ofJson?_toItems args h.1) h.2
  | .message resource path none, h => ofJson?_message resource (ofJson?_toItems path h) rfl
  | .message resource path (some bs), h => by
      have hordered : Dictionary.Ordered (rereadOf bs) := by
        rw [Dictionary.ordered_iff_names, rereadOf_names]
        exact Dictionary.ordered_iff_names.mp h.2.1
      exact ofJson?_message resource (ofJson?_toItems path h.1)
        (overrides?_scopeField (ofJson_toMembers bs h.2.2) hordered)

theorem ofJson?_toItems : ∀ es : List Element, OrderedIn es →
    (toItems es).mapM ofJson? = some (rereadIn es)
  | [], _ => rfl
  | e :: rest, h =>
    mapM_cons_iff.mpr ⟨_, _, ofJson?_toJson e h.1, ofJson?_toItems rest h.2, rfl⟩

theorem ofJson_toMembers : ∀ bs : List (String × Override), OrderedOf bs →
    (toMembers bs).map (fun m => (m.1, Override.ofJson m.2)) = rereadOf bs
  | [], _ => rfl
  | (name, .element e) :: rest, h => by
      have he : Override.ofJson e.toJson = .element e.reread := by
        unfold Override.ofJson override
        rw [ofJson?_toJson e h.1]
      rw [toMembers, List.map_cons, ofJson_toMembers rest h.2, rereadOf, he]
  | (name, .value v) :: rest, h => by
      rw [toMembers, List.map_cons, ofJson_toMembers rest h.2, rereadOf]

end

end Element

/-- A reference that binds no value whose document is read as an
element. -/
def OfReference.PlainValues : OfReference := fun _ _ overrides =>
  ∀ bs, overrides = some bs → ∀ name v, (name, Override.value v) ∈ bs →
    Element.ofJson? v.toJson = none

theorem Override.ofJson_value_iff {v : Value} (h : v.Ordered) :
    Override.ofJson v.toJson = .value v ↔ Element.ofJson? v.toJson = none := by
  unfold Override.ofJson Element.override
  cases Element.ofJson? v.toJson with
  | some e => exact ⟨fun heq => (nomatch heq), fun heq => (nomatch heq)⟩
  | none =>
      dsimp only
      rw [Value.ofJson_toJson v h]
      exact ⟨fun _ => rfl, fun _ => rfl⟩

namespace Element

mutual

/-- An element comes back exactly if no reference in it binds a value that
is read as an element. -/
theorem reread_eq_iff : ∀ e : Element, e.Ordered →
    (e.reread = e ↔ e.EveryReference .PlainValues)
  | .literal _, _ => ⟨fun _ => trivial, fun _ => rfl⟩
  | .variable path, h => by
      rw [reread, Element.variable.injEq, EveryReference]
      exact rereadIn_eq_iff path h
  | .call name args options, h => by
      rw [reread, Element.call.injEq, EveryReference, ← rereadIn_eq_iff args h.1]
      simp
  | .message resource path none, h => by
      rw [reread, Element.message.injEq, EveryReference, ← rereadIn_eq_iff path h]
      simp [OfReference.PlainValues]
  | .message resource path (some bs), h => by
      rw [reread, Element.message.injEq, EveryReference, ← rereadIn_eq_iff path h.1,
        Option.some.injEq, rereadOf_eq_iff bs h.2.2]
      simp only [OfReference.PlainValues, Option.some.injEq, forall_eq', true_and]
      exact and_left_comm

theorem rereadIn_eq_iff : ∀ es : List Element, OrderedIn es →
    (rereadIn es = es ↔ EveryReferenceIn .PlainValues es)
  | [], _ => ⟨fun _ => trivial, fun _ => rfl⟩
  | e :: rest, h => by
      rw [rereadIn, List.cons.injEq, EveryReferenceIn, reread_eq_iff e h.1,
        rereadIn_eq_iff rest h.2]

theorem rereadOf_eq_iff : ∀ bs : List (String × Override), OrderedOf bs →
    (rereadOf bs = bs ↔ (∀ name v, (name, Override.value v) ∈ bs → ofJson? v.toJson = none) ∧
      EveryReferenceOf .PlainValues bs)
  | [], _ => by simp [rereadOf, EveryReferenceOf]
  | (name, .element e) :: rest, h => by
      rw [rereadOf, List.cons.injEq, EveryReferenceOf, Prod.mk.injEq, Override.element.injEq,
        reread_eq_iff e h.1, rereadOf_eq_iff rest h.2]
      simp [and_left_comm]
  | (name, .value v) :: rest, h => by
      rw [rereadOf, List.cons.injEq, EveryReferenceOf, Prod.mk.injEq,
        Override.ofJson_value_iff h.1, rereadOf_eq_iff rest h.2]
      simp [or_imp, forall_and, and_assoc]

end

end Element

-- ============================================================ messages

/-- All dictionaries in a message are in order. -/
def Message.Ordered : Message → Prop
  | .pattern p => Element.OrderedIn p
  | .select s =>
    (∀ selector ∈ s.selectors, selector.value.Ordered) ∧ ∀ c ∈ s.cases, Element.OrderedIn c.pattern

/-- What the document of a selector is read as. -/
def Selector.reread (s : Selector) : Selector := { s with value := s.value.reread }

/-- What the document of a case is read as. -/
def Case.reread (c : Case) : Case := { c with pattern := Element.rereadIn c.pattern }

/-- What the document of a message is read as. -/
def Message.reread : Message → Message
  | .pattern p => .pattern (Element.rereadIn p)
  | .select s => .select ⟨s.selectors.map Selector.reread, s.cases.map Case.reread⟩

theorem map_eq_self_iff {α : Type} {f : α → α} {xs : List α} :
    xs.map f = xs ↔ ∀ x ∈ xs, f x = x := by
  induction xs with
  | nil => simp
  | cons x xs ih => simp [ih]

theorem Pattern.ofJson?_toJson {p : Pattern} (h : Element.OrderedIn p) :
    Pattern.ofJson? (Pattern.toJson p) = some (Element.rereadIn p) := Element.ofJson?_toItems p h

theorem Selector.ofJson?_toJson {s : Selector} (h : s.value.Ordered) :
    Selector.ofJson? s.toJson = some s.reread := by
  have hdefault : Selector.default? (s.default.map Literal.toJson) = some s.default := by
    cases s.default with
    | none => rfl
    | some l => cases l <;> rfl
  have hvalue := Element.ofJson?_toJson s.value h
  unfold toJson
  generalize s.default.map Literal.toJson = d at hdefault ⊢
  generalize s.value.toJson = v at hvalue ⊢
  have hfields : (Json.object (("value", v) :: Json.optional "default" d)).fields?
      ["value", "default"] = some [some v, d] := by
    cases d <;> rfl
  rw [ofJson?, hfields]
  dsimp only [bind, Option.bind]
  rw [hvalue, hdefault]
  rfl

theorem Case.ofJson?_toJson {c : Case} (h : Element.OrderedIn c.pattern) :
    Case.ofJson? c.toJson = some c.reread := by
  have hkeys : (c.keys.map Literal.toJson).mapM Literal.ofJson? = some c.keys := by
    rw [mapM_map_of_forall fun l _ => Literal.ofJson?_toJson l, List.map_id']
  show (do
    return ⟨← (c.keys.map Literal.toJson).mapM Literal.ofJson?,
      ← Pattern.ofJson? (Pattern.toJson c.pattern)⟩ : Option Case) = _
  rw [hkeys, Pattern.ofJson?_toJson h]
  rfl

theorem Selection.ofJson?_toJson {s : Selection}
    (hselectors : ∀ selector ∈ s.selectors, selector.value.Ordered)
    (hcases : ∀ c ∈ s.cases, Element.OrderedIn c.pattern) :
    Selection.ofJson? s.toJson
      = some ⟨s.selectors.map Selector.reread, s.cases.map Case.reread⟩ := by
  show (do
    return ⟨← (s.selectors.map Selector.toJson).mapM Selector.ofJson?,
      ← (s.cases.map Case.toJson).mapM Case.ofJson?⟩ : Option Selection) = _
  rw [mapM_map_of_forall fun x hx => Selector.ofJson?_toJson (hselectors x hx),
    mapM_map_of_forall fun c hc => Case.ofJson?_toJson (hcases c hc)]
  rfl

/-- The document of a message is read as a message. -/
theorem Message.ofJson?_toJson {m : Message} (h : m.Ordered) :
    Message.ofJson? m.toJson = some m.reread := by
  cases m with
  | pattern p =>
      show ofBody? (Pattern.toJson p) = _
      rw [ofBody?, Pattern.ofJson?_toJson h]
      rfl
  | select s =>
      show ofBody? s.toJson = _
      rw [ofBody?, Selection.ofJson?_toJson h.1 h.2]
      rfl

/-- A message comes back exactly if no reference in it binds a value that
is read as an element. -/
theorem Message.reread_eq_iff {m : Message} (h : m.Ordered) :
    m.reread = m ↔ m.EveryReference .PlainValues := by
  cases m with
  | pattern p =>
      rw [reread, Message.pattern.injEq]
      exact Element.rereadIn_eq_iff p h
  | select s =>
      obtain ⟨selectors, cases⟩ := s
      have hselector : ∀ x ∈ selectors,
          (x.reread = x ↔ x.value.EveryReference .PlainValues) := fun x hx => by
        rw [← Element.reread_eq_iff x.value (h.1 x hx)]
        cases x
        simp [Selector.reread]
      have hcase : ∀ c ∈ cases,
          (c.reread = c ↔ EveryReferenceIn .PlainValues c.pattern) := fun c hc => by
        rw [← Element.rereadIn_eq_iff c.pattern (h.2 c hc)]
        cases c
        simp [Case.reread]
      rw [reread, Message.select.injEq, Selection.mk.injEq, map_eq_self_iff, map_eq_self_iff]
      exact and_congr (forall₂_congr hselector) (forall₂_congr hcase)

end MessageCatalog
