/-
Documents without repeated names.

Of the members of an object with one name a value keeps the last, but a
record must not repeat a field. So an object that repeats one can be bound
as a value and be written as a record afterwards. That is the only way in
which an override can turn: a document without repeated names is an
element exactly if it is one when it has been read as a value and written
again (`Element.ofJson?_again`), since every field of a record is then
found as it was (`Json.fields?_again`). So what was read from documents
without repeated names binds no value that is read as an element
(`Element.plain_of_unrepeated`, `Entry.plain_of_unrepeated`).
-/
import MessageCatalog.Proofs.Wire.Entry

namespace MessageCatalog

namespace Json

mutual

/-- No object of a document repeats a name. -/
def Unrepeated : Json → Prop
  | .array items => UnrepeatedItems items
  | .object members => (Dictionary.names members).Nodup ∧ UnrepeatedMembers members
  | _ => True

/-- No object of documents repeats a name. -/
def UnrepeatedItems : List Json → Prop
  | [] => True
  | j :: rest => Unrepeated j ∧ UnrepeatedItems rest

/-- No object of members repeats a name. -/
def UnrepeatedMembers : List (String × Json) → Prop
  | [] => True
  | (_, j) :: rest => Unrepeated j ∧ UnrepeatedMembers rest

end

theorem Unrepeated.inside {j k : Json} (h : j.Unrepeated) (hk : Inside k j) : k.Unrepeated := by
  cases hk with
  | item hmem =>
      rename_i items
      replace h : UnrepeatedItems items := h
      induction items with
      | nil => exact nomatch hmem
      | cons first rest ih =>
          rcases List.mem_cons.mp hmem with rfl | hmem
          · exact h.1
          · exact ih hmem h.2
  | member hmem =>
      rename_i members name
      replace h : UnrepeatedMembers members := h.2
      induction members with
      | nil => exact nomatch hmem
      | cons first rest ih =>
          rcases List.mem_cons.mp hmem with rfl | hmem
          · exact h.1
          · exact ih hmem h.2

/-- A document as it is written once it has been read as a value. -/
def again (j : Json) : Json := (Value.ofJson j).toJson

theorem again_array (items : List Json) : again (.array items) = .array (items.map again) := by
  have hitems : ∀ js : List Json, Value.toItems (Value.ofItems js) = js.map again := by
    intro js
    induction js with
    | nil => rfl
    | cons j js ih => rw [Value.ofItems, Value.toItems, ih, List.map_cons, again]
  rw [again, Value.ofJson, Value.toJson, hitems]

theorem toMembers_eq_map (ps : List (String × Value)) :
    Value.toMembers ps = ps.map fun p => (p.1, p.2.toJson) := by
  induction ps with
  | nil => rfl
  | cons p ps ih => rw [Value.toMembers, ih, List.map_cons]

theorem ofMembers_eq_map (ms : List (String × Json)) :
    Value.ofMembers ms = ms.map fun m => (m.1, Value.ofJson m.2) := by
  induction ms with
  | nil => rfl
  | cons m ms ih => rw [Value.ofMembers, ih, List.map_cons]

/-- An object without a repeated name keeps all its members. -/
theorem again_object {members : List (String × Json)} (h : (Dictionary.names members).Nodup) :
    ∃ others, again (.object members) = .object others ∧
      others.Perm (members.map fun m => (m.1, again m.2)) := by
  refine ⟨_, rfl, ?_⟩
  rw [toMembers_eq_map, ofMembers_eq_map]
  have hnames : (Dictionary.names (members.map fun m => (m.1, Value.ofJson m.2))).Nodup := by
    rw [Dictionary.names, List.map_map]
    exact h
  have hperm := (Dictionary.ofList_perm hnames).map fun p : String × Value => (p.1, p.2.toJson)
  rwa [List.map_map] at hperm

/-- The field of a record among the members with its name. -/
def onlyField? : List (String × Json) → Option (Option Json)
  | [] => some none
  | [(_, j)] => some (some j)
  | _ => none

theorem fields?_object (names : List String) (members : List (String × Json)) :
    (Json.object members).fields? names
      = names.mapM fun name => onlyField? (members.filter (·.1 == name)) := rfl

theorem onlyField?_again {ms others : List (String × Json)}
    (h : others.Perm (ms.map fun m => (m.1, again m.2))) :
    onlyField? others = (onlyField? ms).map fun f => f.map again := by
  match ms, h with
  | [], h => rw [h.eq_nil]; rfl
  | [(n, j)], h => rw [List.perm_singleton.mp h]; rfl
  | _ :: _ :: _, h =>
      match others, h.length_eq with
      | _ :: _ :: _, _ => rfl

theorem mapM_map_eq {α β γ : Type} {f : α → Option γ} {g : α → Option β} {h : β → γ}
    (heq : ∀ x, f x = (g x).map h) (xs : List α) : xs.mapM f = (xs.mapM g).map (List.map h) := by
  induction xs with
  | nil => rfl
  | cons x xs ih =>
      rw [List.mapM_cons, List.mapM_cons, ih, heq]
      cases g x with
      | none => rfl
      | some y => cases xs.mapM g <;> rfl

/-- The fields of a record are those that were written, each as it is
written again. -/
theorem fields?_again (names : List String) {j : Json} (h : j.Unrepeated) :
    (again j).fields? names = (j.fields? names).map (List.map (Option.map again)) := by
  cases j with
  | array items =>
      rw [again_array, fields?, fields?, List.length_map]
      split
      · simp [Function.comp_def]
      · rfl
  | object members =>
      obtain ⟨others, heq, hperm⟩ := again_object h.1
      rw [heq, fields?_object, fields?_object]
      refine mapM_map_eq (fun name => onlyField?_again ?_) names
      have hfilter := hperm.filter (·.1 == name)
      rwa [List.filter_map] at hfilter
  | null => rfl
  | bool _ => rfl
  | integer _ => rfl
  | decimal _ => rfl
  | string _ => rfl

end Json

namespace Element

open Json (again)

variable {element : Json → Option Element} {j : Json}

/-- Documents below `j` are elements exactly if they are when they are
written again. -/
def KeptBelow (j : Json) : Prop :=
  ∀ k : Json, k.levels < j.levels → k.Unrepeated →
    ((ofJson? (again k)).isSome ↔ (ofJson? k).isSome)

theorem KeptBelow.inside {k : Json} (h : KeptBelow j) (hk : Json.Inside k j) : KeptBelow k :=
  fun l hl => h l (Nat.lt_trans hl hk.levels)

theorem list?_again (hkept : KeptBelow j) (h : j.Unrepeated) :
    (list? ofJson? (again j)).isSome ↔ (list? ofJson? j).isSome := by
  cases j with
  | array items =>
      rw [Json.again_array, list?, list?, mapM_isSome, mapM_isSome, List.forall_mem_map]
      exact forall₂_congr fun k hk =>
        hkept k (Json.Inside.item hk).levels (h.inside (.item hk))
  | null => rfl
  | bool _ => rfl
  | integer _ => rfl
  | decimal _ => rfl
  | string _ => rfl
  | object _ => rfl

theorem literal_again (j : Json) :
    (Literal.ofJson? (again j)).isSome ↔ (Literal.ofJson? j).isSome := by
  cases j with
  | array items => rw [Json.again_array]; rfl
  | _ => rfl

theorem args?_again {field : Option Json} (hkept : ∀ k, some k = field → KeptBelow k)
    (h : ∀ k, some k = field → k.Unrepeated) :
    (args? ofJson? (field.map again)).isSome ↔ (args? ofJson? field).isSome := by
  cases field with
  | none => rfl
  | some k => exact list?_again (hkept k rfl) (h k rfl)

theorem options?_again {field : Option Json} (h : ∀ k, some k = field → k.Unrepeated) :
    (options? (field.map again)).isSome ↔ (options? field).isSome := by
  cases field with
  | none => rfl
  | some k =>
      cases k with
      | object members =>
          obtain ⟨others, heq, hperm⟩ := Json.again_object (h _ rfl).1
          rw [Option.map_some, heq, options?, options?, Json.dictionary?_isSome,
            Json.dictionary?_isSome]
          simp only [hperm.mem_iff, List.forall_mem_map]
          exact forall₂_congr fun m _ => literal_again m.2
      | array items => rw [Option.map_some, Json.again_array]; rfl
      | _ => rfl

theorem resource?_again (field : Option Json) :
    (resource? (field.map again)).isSome ↔ (resource? field).isSome := by
  cases field with
  | none => rfl
  | some k =>
      cases k with
      | array items => rw [Option.map_some, Json.again_array]; rfl
      | _ => rfl

/-- Overrides can be read from any object. -/
theorem overrides?_again (field : Option Json) :
    (overrides? ofJson? (field.map again)).isSome ↔ (overrides? ofJson? field).isSome := by
  have hobject : ∀ members, (overrides? ofJson? (some (.object members))).isSome := by
    intro members
    rw [overrides?, Option.isSome_map, Json.dictionary?_isSome]
    exact fun _ _ => rfl
  cases field with
  | none => rfl
  | some k =>
      cases k with
      | array items => rw [Option.map_some, Json.again_array]; rfl
      | object members => exact iff_of_true (hobject _) (hobject _)
      | _ => rfl

theorem asVariable?_isSome : (asVariable? element j).isSome ↔ ∃ path,
    j.fields? ["var_path"] = some [some path] ∧ (list? element path).isSome := by
  constructor
  · intro h
    obtain ⟨e, he⟩ := Option.isSome_iff_exists.mp h
    obtain ⟨fields, hfields, h⟩ := Option.bind_eq_some_iff.mp he
    split at h
    · rename_i path
      obtain ⟨es, hes, -⟩ := Option.bind_eq_some_iff.mp h
      exact ⟨path, hfields, by rw [hes]; rfl⟩
    · exact nomatch h
  · rintro ⟨path, hfields, hpath⟩
    obtain ⟨es, hes⟩ := Option.isSome_iff_exists.mp hpath
    simp [asVariable?, hfields, hes]

theorem asCall?_isSome : (asCall? element j).isSome ↔ ∃ name args options,
    j.fields? ["func", "args", "options"] = some [some (.string name), args, options] ∧
      (args? element args).isSome ∧ (options? options).isSome := by
  constructor
  · intro h
    obtain ⟨e, he⟩ := Option.isSome_iff_exists.mp h
    obtain ⟨fields, hfields, h⟩ := Option.bind_eq_some_iff.mp he
    split at h
    · rename_i name args options
      obtain ⟨as, has, h⟩ := Option.bind_eq_some_iff.mp h
      obtain ⟨os, hos, -⟩ := Option.bind_eq_some_iff.mp h
      exact ⟨name, args, options, hfields, by rw [has]; rfl, by rw [hos]; rfl⟩
    · exact nomatch h
  · rintro ⟨name, args, options, hfields, hargs, hoptions⟩
    obtain ⟨as, has⟩ := Option.isSome_iff_exists.mp hargs
    obtain ⟨os, hos⟩ := Option.isSome_iff_exists.mp hoptions
    simp [asCall?, hfields, has, hos]

theorem asReference?_isSome : (asReference? element j).isSome ↔ ∃ resource path overrides,
    j.fields? ["res_id", "msg_path", "scope"] = some [resource, some path, overrides] ∧
      (resource? resource).isSome ∧ (list? element path).isSome ∧
        (overrides? element overrides).isSome := by
  constructor
  · intro h
    obtain ⟨e, he⟩ := Option.isSome_iff_exists.mp h
    obtain ⟨fields, hfields, h⟩ := Option.bind_eq_some_iff.mp he
    split at h
    · rename_i resource path overrides
      obtain ⟨r, hr, h⟩ := Option.bind_eq_some_iff.mp h
      obtain ⟨es, hes, h⟩ := Option.bind_eq_some_iff.mp h
      obtain ⟨bs, hbs, -⟩ := Option.bind_eq_some_iff.mp h
      exact ⟨resource, path, overrides, hfields, by rw [hr]; rfl, by rw [hes]; rfl,
        by rw [hbs]; rfl⟩
    · exact nomatch h
  · rintro ⟨resource, path, overrides, hfields, hresource, hpath, hoverrides⟩
    obtain ⟨r, hr⟩ := Option.isSome_iff_exists.mp hresource
    obtain ⟨es, hes⟩ := Option.isSome_iff_exists.mp hpath
    obtain ⟨bs, hbs⟩ := Option.isSome_iff_exists.mp hoverrides
    simp [asReference?, hfields, hr, hes, hbs]

theorem again_eq_string {s : String} : again j = .string s ↔ j = .string s := by
  cases j with
  | array items => rw [Json.again_array]; simp
  | object members => simp [again, Value.ofJson, Value.toJson]
  | _ => simp [again, Value.ofJson, Value.toJson]

theorem fields?_again_one {names : List String} (h : j.Unrepeated) {a' : Option Json}
    (hfields : (again j).fields? names = some [a']) :
    ∃ a, j.fields? names = some [a] ∧ a' = a.map again := by
  rw [Json.fields?_again names h] at hfields
  obtain ⟨fs, hfs, heq⟩ := Option.map_eq_some_iff.mp hfields
  rcases fs with _ | ⟨a, _ | _⟩ <;> cases heq
  exact ⟨a, hfs, rfl⟩

theorem fields?_again_three {names : List String} (h : j.Unrepeated) {a' b' c' : Option Json}
    (hfields : (again j).fields? names = some [a', b', c']) :
    ∃ a b c, j.fields? names = some [a, b, c] ∧ a' = a.map again ∧ b' = b.map again ∧
      c' = c.map again := by
  rw [Json.fields?_again names h] at hfields
  obtain ⟨fs, hfs, heq⟩ := Option.map_eq_some_iff.mp hfields
  rcases fs with _ | ⟨a, _ | ⟨b, _ | ⟨c, _ | _⟩⟩⟩ <;> cases heq
  exact ⟨a, b, c, hfs, rfl, rfl, rfl⟩

theorem asVariable?_again (hkept : KeptBelow j) (h : j.Unrepeated) :
    (asVariable? ofJson? (again j)).isSome ↔ (asVariable? ofJson? j).isSome := by
  have hlist : ∀ path, j.fields? ["var_path"] = some [some path] →
      ((list? ofJson? (again path)).isSome ↔ (list? ofJson? path).isSome) := fun path hfields =>
    have hinside := Json.inside_of_field hfields (List.mem_cons_self ..)
    list?_again (hkept.inside hinside) (h.inside hinside)
  rw [asVariable?_isSome, asVariable?_isSome]
  constructor
  · rintro ⟨path', hfields', hpath⟩
    obtain ⟨a, hfields, ha⟩ := fields?_again_one h hfields'
    obtain ⟨path, rfl, rfl⟩ := Option.map_eq_some_iff.mp ha.symm
    exact ⟨path, hfields, (hlist path hfields).mp hpath⟩
  · rintro ⟨path, hfields, hpath⟩
    exact ⟨again path, by rw [Json.fields?_again _ h, hfields]; rfl,
      (hlist path hfields).mpr hpath⟩

theorem asCall?_again (hkept : KeptBelow j) (h : j.Unrepeated) :
    (asCall? ofJson? (again j)).isSome ↔ (asCall? ofJson? j).isSome := by
  have hparts : ∀ name args options,
      j.fields? ["func", "args", "options"] = some [some (.string name), args, options] →
      ((args? ofJson? (args.map again)).isSome ↔ (args? ofJson? args).isSome) ∧
        ((options? (options.map again)).isSome ↔ (options? options).isSome) := by
    intro name args options hfields
    have hinside := fun k hk => Json.inside_of_field (k := k) hfields hk
    exact ⟨args?_again (fun k hk => hkept.inside (hinside k (by simp [hk])))
        fun k hk => h.inside (hinside k (by simp [hk])),
      options?_again fun k hk => h.inside (hinside k (by simp [hk]))⟩
  rw [asCall?_isSome, asCall?_isSome]
  constructor
  · rintro ⟨name, args', options', hfields', hargs, hoptions⟩
    obtain ⟨a, args, options, hfields, ha, rfl, rfl⟩ := fields?_again_three h hfields'
    obtain ⟨k, rfl, hk⟩ := Option.map_eq_some_iff.mp ha.symm
    rw [again_eq_string] at hk
    subst hk
    obtain ⟨hargs', hoptions'⟩ := hparts name args options hfields
    exact ⟨name, args, options, hfields, hargs'.mp hargs, hoptions'.mp hoptions⟩
  · rintro ⟨name, args, options, hfields, hargs, hoptions⟩
    obtain ⟨hargs', hoptions'⟩ := hparts name args options hfields
    exact ⟨name, _, _, by rw [Json.fields?_again _ h, hfields]; rfl, hargs'.mpr hargs,
      hoptions'.mpr hoptions⟩

theorem asReference?_again (hkept : KeptBelow j) (h : j.Unrepeated) :
    (asReference? ofJson? (again j)).isSome ↔ (asReference? ofJson? j).isSome := by
  have hlist : ∀ resource path overrides,
      j.fields? ["res_id", "msg_path", "scope"] = some [resource, some path, overrides] →
      ((list? ofJson? (again path)).isSome ↔ (list? ofJson? path).isSome) := by
    intro resource path overrides hfields
    have hinside := Json.inside_of_field hfields (k := path) (by simp)
    exact list?_again (hkept.inside hinside) (h.inside hinside)
  rw [asReference?_isSome, asReference?_isSome]
  constructor
  · rintro ⟨resource', path', overrides', hfields', hresource, hpath, hoverrides⟩
    obtain ⟨resource, b, overrides, hfields, rfl, hb, rfl⟩ := fields?_again_three h hfields'
    obtain ⟨path, rfl, rfl⟩ := Option.map_eq_some_iff.mp hb.symm
    exact ⟨resource, path, overrides, hfields, (resource?_again _).mp hresource,
      (hlist _ _ _ hfields).mp hpath, (overrides?_again _).mp hoverrides⟩
  · rintro ⟨resource, path, overrides, hfields, hresource, hpath, hoverrides⟩
    exact ⟨_, again path, _, by rw [Json.fields?_again _ h, hfields]; rfl,
      (resource?_again _).mpr hresource, (hlist _ _ _ hfields).mpr hpath,
      (overrides?_again _).mpr hoverrides⟩

theorem orElse_isSome {α : Type} {a b : Option α} :
    (a <|> b).isSome ↔ a.isSome ∨ b.isSome := by
  cases a <;> simp

/-- Without a repeated name, a document is an element exactly if it is one
when it has been read as a value and written again. -/
theorem ofJson?_again (j : Json) (h : j.Unrepeated) :
    (ofJson? (again j)).isSome ↔ (ofJson? j).isSome := by
  induction hlevels : j.levels using Nat.strong_induction_on generalizing j with
  | _ n ih =>
    subst hlevels
    have hkept : KeptBelow j := fun k hk hrepeated => ih _ hk k hrepeated rfl
    rw [ofJson?_eq, ofJson?_eq]
    simp only [orElse_isSome, Option.isSome_map]
    exact or_congr (literal_again j) (or_congr (asVariable?_again hkept h)
      (or_congr (asCall?_again hkept h) (asReference?_again hkept h)))

end Element

/-- A value that was read as an override from a document without repeated
names is no element when it is written again. -/
theorem Override.plain_of_unrepeated {j : Json} (h : j.Unrepeated) {v : Value}
    (hv : Override.ofJson j = .value v) : Element.ofJson? v.toJson = none := by
  unfold ofJson Element.override at hv
  cases hread : Element.ofJson? j with
  | some e =>
      rw [hread] at hv
      exact nomatch hv
  | none =>
      rw [hread] at hv
      cases hv
      have hagain := Element.ofJson?_again j h
      rw [hread] at hagain
      exact Option.not_isSome_iff_eq_none.mp fun hsome => absurd (hagain.mp hsome) (by simp)

-- ======================================================== plain values

namespace Element

/-- Elements that are read below `j` from documents without repeated names
bind no value that is read as an element. -/
def PlainBelow (j : Json) : Prop :=
  ∀ k : Json, k.levels < j.levels → ∀ e, ofJson? k = some e →
    k.Unrepeated → e.EveryReference .PlainValues

theorem PlainBelow.inside {k : Json} (h : PlainBelow j) (hk : Json.Inside k j) : PlainBelow k :=
  fun l hl => h l (Nat.lt_trans hl hk.levels)

theorem plain_of_list? {es : List Element} (hplain : PlainBelow j) (hj : j.Unrepeated)
    (h : list? ofJson? j = some es) : EveryReferenceIn .PlainValues es := by
  cases j with
  | array items =>
      refine everyReferenceIn_iff.mpr fun e he => ?_
      obtain ⟨k, hk, hread⟩ := mem_of_mapM h he
      exact hplain k (Json.Inside.item hk).levels e hread (hj.inside (.item hk))
  | null => exact nomatch h
  | bool _ => exact nomatch h
  | integer _ => exact nomatch h
  | decimal _ => exact nomatch h
  | string _ => exact nomatch h
  | object _ => exact nomatch h

theorem plain_of_overrides? {o : Option Json} {bs : List (String × Override)}
    (hplain : ∀ k, some k = o → PlainBelow k) (ho : ∀ k, some k = o → k.Unrepeated)
    (h : overrides? ofJson? o = some (some bs)) :
    (∀ name v, (name, Override.value v) ∈ bs → ofJson? v.toJson = none) ∧
      EveryReferenceOf .PlainValues bs := by
  obtain ⟨members, rfl, -, hread⟩ := overrides_read_from h
  refine ⟨fun name v hv => ?_, everyReferenceOf_iff.mpr fun name e he => ?_⟩
  · obtain ⟨m, hm, heq⟩ := hread _ hv
    exact Override.plain_of_unrepeated ((ho _ rfl).inside (.member hm)) heq.symm
  · obtain ⟨m, hm, heq⟩ := hread _ he
    exact hplain _ rfl m.2 (Json.Inside.member hm).levels e (ofJson?_of_override heq.symm)
      ((ho _ rfl).inside (.member hm))

theorem plain_of_readFrom {e : Element} (hplain : PlainBelow j) (h : ReadFrom j e)
    (hj : j.Unrepeated) : e.EveryReference .PlainValues := by
  cases h with
  | asLiteral h => trivial
  | asVariable hk hpath => exact plain_of_list? (hplain.inside hk) (hj.inside hk) hpath
  | @asCall name a o args options hname ha ho hargs hoptions =>
      cases a with
      | none =>
          cases hargs
          trivial
      | some k => exact plain_of_list? (hplain.inside (ha k rfl)) (hj.inside (ha k rfl)) hargs
  | @asReference k o path overrides resource hk ho hpath hoverrides =>
      have hpath' := plain_of_list? (hplain.inside hk) (hj.inside hk) hpath
      cases overrides with
      | none => exact ⟨fun _ h => (nomatch h), hpath'⟩
      | some bs =>
          obtain ⟨hvalues, helements⟩ := plain_of_overrides?
            (fun k hk => hplain.inside (ho k hk)) (fun k hk => hj.inside (ho k hk)) hoverrides
          refine ⟨fun bs' heq => ?_, hpath', helements⟩
          cases heq
          exact hvalues

/-- An element that was read from a document without repeated names binds
no value that is read as an element. -/
theorem plain_of_unrepeated (j : Json) : ∀ e, ofJson? j = some e → j.Unrepeated →
    e.EveryReference .PlainValues :=
  ofJson?_induction plain_of_readFrom j

theorem plainBelow (j : Json) : PlainBelow j := fun k _ => plain_of_unrepeated k

end Element

variable {j : Json}

theorem Message.plain_of_unrepeated {m : Message} (hj : j.Unrepeated)
    (h : Message.ofJson? j = some m) : m.EveryReference .PlainValues := by
  obtain ⟨k, hk, hbody⟩ := read_from h
  have hk' := hj.inside hk
  rcases body_read_from hbody with ⟨p, rfl, hp⟩ | ⟨s, rfl, hs⟩
  · exact Element.plain_of_list? (Element.plainBelow k) hk' hp
  · obtain ⟨selectors, cases, hselectors, hcases, hss, hcs⟩ := Selection.read_from hs
    refine ⟨fun selector hmem => ?_, fun c hmem => ?_⟩
    · obtain ⟨l, hl, hread⟩ := mem_of_mapM hss hmem
      obtain ⟨v, hv, hvalue⟩ := Selector.read_from hread
      exact Element.plain_of_unrepeated v _ hvalue
        (((hk'.inside hselectors).inside (.item hl)).inside hv)
    · obtain ⟨l, hl, hread⟩ := mem_of_mapM hcs hmem
      obtain ⟨v, hv, hpattern⟩ := Case.read_from hread
      exact Element.plain_of_list? (Element.plainBelow v)
        (((hk'.inside hcases).inside (.item hl)).inside hv) hpattern

namespace Entry

theorem plain_of_readFrom {e : Entry} (hbelow : ∀ k : Json, k.levels < j.levels →
      ∀ e, ofJson? k = some e → k.Unrepeated →
        ∀ before, ∀ q ∈ e.messages before, q.2.EveryReference .PlainValues)
    (h : ReadFrom j e) (hj : j.Unrepeated) (before : List String) :
    ∀ q ∈ e.messages before, q.2.EveryReference .PlainValues := by
  intro q hq
  cases h with
  | asMessage h =>
      cases List.mem_singleton.mp hq
      exact Message.plain_of_unrepeated hj h
  | asGroup hinside hentries =>
      obtain ⟨p, hp, hq⟩ := mem_messagesOfEntries.mp hq
      obtain ⟨m, hm, hread⟩ := Json.mem_of_dictionary? hentries hp
      exact hbelow m.2 (Nat.lt_trans (Json.Inside.member hm).levels hinside.levels) p.2 hread
        ((hj.inside hinside).inside (.member hm)) _ q hq

/-- The messages of an entry that was read from a document without
repeated names bind no value that is read as an element. -/
theorem plain_of_unrepeated (j : Json) : ∀ e, ofJson? j = some e → j.Unrepeated →
    ∀ before, ∀ q ∈ e.messages before, q.2.EveryReference .PlainValues :=
  ofJson?_induction plain_of_readFrom j

end Entry

end MessageCatalog
