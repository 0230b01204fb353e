/-
What coverage counts.

A message of the source is covered if its counterpart has a message at
the same path; that is what a report is read as (`ByPath`). What is
compared is dotted paths (`ByName`), and names may have points, so two
messages may be one text: messages of one resource that count once, or
messages of both that cover each other although their paths differ.

A report says what it is read as exactly if this does not happen
(`Unambiguous`, `byPath_compare_iff`); for that it is enough that no name
has a point (`unambiguous_of_pointless`). The total tells the messages of
the source apart, and what is extra tells them from the messages of the
counterpart and these from one another.
-/
import Mathlib.Data.List.Nodup
import Mathlib.Data.List.Perm.Subperm
import MessageCatalog.Command
import MessageCatalog.Proofs.Listing

namespace MessageCatalog

namespace Coverage

-- ============================================================ messages

/-- Whether a resource, if there is one, has a message at a path. -/
def hasMessage (r : Option Resource) (path : List String) : Bool :=
  (r.bind (·.message? path)).isSome

/-- The paths of all messages. Without a resource there are none. -/
def paths (r : Option Resource) : List (List String) := (r.elim [] Resource.messages).map Prod.fst

/-- The distinct dotted paths of all messages. -/
def names (r : Option Resource) : List String := (r.map Resource.distinctPaths).getD []

/-- A message has this dotted path. -/
def Named (r : Option Resource) (name : String) : Prop :=
  ∃ path, hasMessage r path = true ∧ dotted path = name

/-- A resource, if there is one, is in order, as every resource in a file
is. -/
def InOrder (r : Option Resource) : Prop := ∀ s ∈ r, s.Ordered

variable {r source counterpart : Option Resource}

theorem mem_paths_iff (h : InOrder r) {path : List String} :
    path ∈ paths r ↔ hasMessage r path = true := by
  cases r with
  | none => simp [paths, hasMessage]
  | some s => exact Resource.mem_paths_iff (h s rfl)

theorem nodup_paths (h : InOrder r) : (paths r).Nodup := by
  cases r with
  | none => exact List.nodup_nil
  | some s => exact Resource.nodup_paths (h s rfl)

theorem names_increasing (r : Option Resource) : (names r).Pairwise (· < ·) := by
  cases r with
  | none => exact .nil
  | some s => exact s.distinctPaths_increasing

theorem nodup_of_increasing {ns : List String} (h : ns.Pairwise (· < ·)) : ns.Nodup := by
  refine h.imp fun hlt heq => ?_
  rw [heq] at hlt
  exact String.lt_irrefl _ hlt

theorem nodup_names (r : Option Resource) : (names r).Nodup :=
  nodup_of_increasing (names_increasing r)

theorem mem_names_iff_paths {name : String} :
    name ∈ names r ↔ ∃ path ∈ paths r, dotted path = name := by
  cases r with
  | none => simp [names, paths]
  | some s =>
      show name ∈ s.distinctPaths ↔ ∃ path ∈ s.messages.map Prod.fst, dotted path = name
      rw [Resource.mem_distinctPaths_iff]
      simp

theorem mem_names_iff (h : InOrder r) {name : String} :
    name ∈ names r ↔ Named r name := by
  simp only [mem_names_iff_paths, mem_paths_iff h, Named]

-- ============================================================= by name

/-- A coverage of dotted paths. -/
structure ByName (source counterpart : Option Resource) (c : Coverage) : Prop where
  total : ∃ names : List String, names.Nodup ∧ (∀ name, name ∈ names ↔ Named source name) ∧
    c.total = names.length
  covered : c.covered + c.missing.length = c.total
  missing : ∀ name, name ∈ c.missing ↔ Named source name ∧ ¬Named counterpart name
  extra : ∀ name, name ∈ c.extra ↔ Named counterpart name ∧ ¬Named source name
  missing_increasing : c.missing.Pairwise (· < ·)
  extra_increasing : c.extra.Pairwise (· < ·)

/-- What is computed is a coverage of dotted paths. -/
theorem byName_compare (hsource : InOrder source)
    (hcounterpart : InOrder counterpart) :
    ByName source counterpart (compare (names source) (names counterpart)) where
  total := ⟨names source, nodup_names source, fun _ => mem_names_iff hsource, rfl⟩
  covered := (List.length_eq_length_filter_add _).symm
  missing name := by
    show name ∈ (names source).filter _ ↔ _
    rw [List.mem_filter, mem_names_iff hsource]
    simp [mem_names_iff hcounterpart]
  extra name := by
    show name ∈ (names counterpart).filter _ ↔ _
    rw [List.mem_filter, mem_names_iff hcounterpart]
    simp [mem_names_iff hsource]
  missing_increasing := (names_increasing source).filter _
  extra_increasing := (names_increasing counterpart).filter _

/-- Nothing is missing exactly if every dotted path of the source is one of
the counterpart. -/
theorem ByName.isComplete_iff {c : Coverage} (h : ByName source counterpart c) :
    c.isComplete = true ↔ ∀ path, hasMessage source path = true →
      Named counterpart (dotted path) := by
  rw [isComplete, List.isEmpty_iff, List.eq_nil_iff_forall_not_mem]
  simp only [h.missing, not_and, not_not]
  exact ⟨fun hall path hpath => hall _ ⟨path, hpath, rfl⟩,
    fun hall name ⟨path, hpath, hname⟩ => hname ▸ hall path hpath⟩

-- ============================================================= by path

/-- A coverage of messages: how many the source has, how many of these have
a counterpart at the same path, and the dotted paths of those that have
none. -/
structure ByPath (source counterpart : Option Resource) (c : Coverage) : Prop where
  total : c.total = (paths source).length
  covered : c.covered = ((paths source).filter (hasMessage counterpart)).length
  missing : c.missing.Perm (((paths source).filter fun p => !hasMessage counterpart p).map dotted)
  extra : c.extra.Perm (((paths counterpart).filter fun p => !hasMessage source p).map dotted)

/-- No two paths of messages, of one resource or of both, are the same
text. -/
def Unambiguous (source counterpart : Option Resource) : Prop :=
  ∀ p q, (hasMessage source p = true ∨ hasMessage counterpart p = true) →
    (hasMessage source q = true ∨ hasMessage counterpart q = true) → dotted p = dotted q → p = q

/-- Names without points make no path ambiguous. -/
theorem unambiguous_of_pointless
    (h : ∀ p, (hasMessage source p = true ∨ hasMessage counterpart p = true) →
      ∀ name ∈ p, '.' ∉ name.toList) : Unambiguous source counterpart := by
  have hempty : ∀ r : Option Resource, hasMessage r [] = false := by
    intro r
    cases r <;> rfl
  have hne : ∀ p, (hasMessage source p = true ∨ hasMessage counterpart p = true) → p ≠ [] := by
    rintro p hp rfl
    simp [hempty] at hp
  exact fun p q hp hq heq => dotted_injective (hne p hp) (hne q hq) (h p hp) (h q hq) heq

/-- A path whose text is another's is that path. -/
theorem Unambiguous.named_iff (h : Unambiguous source counterpart) {path : List String}
    (hpath : hasMessage source path = true) :
    Named counterpart (dotted path) ↔ hasMessage counterpart path = true := by
  refine ⟨fun ⟨other, hother, heq⟩ => ?_, fun hhas => ⟨path, hhas, rfl⟩⟩
  have hsame : path = other := h path other (.inl hpath) (.inr hother) heq.symm
  exact hsame ▸ hother

theorem Unambiguous.symm (h : Unambiguous source counterpart) : Unambiguous counterpart source :=
  fun p q hp hq => h p q hp.symm hq.symm

/-- Without ambiguity the names are the texts of the paths. -/
theorem Unambiguous.names_perm (h : Unambiguous source counterpart) (hsource : InOrder source) :
    (names source).Perm ((paths source).map dotted) := by
  have hinjective : ∀ p ∈ paths source, ∀ q ∈ paths source, dotted p = dotted q → p = q :=
    fun p hp q hq =>
      h p q (.inl ((mem_paths_iff hsource).mp hp)) (.inl ((mem_paths_iff hsource).mp hq))
  have hnodup := (nodup_paths hsource).map_on hinjective
  refine (List.perm_ext_iff_of_nodup (nodup_names source) hnodup).mpr fun name => ?_
  rw [mem_names_iff_paths, List.mem_map]

/-- Texts are chosen as their paths are. -/
theorem filter_perm {ns : List String} {ps : List (List String)} (h : ns.Perm (ps.map dotted))
    {chosen : String → Bool} {chosenPath : List String → Bool}
    (hchosen : ∀ p ∈ ps, chosen (dotted p) = chosenPath p) :
    (ns.filter chosen).Perm ((ps.filter chosenPath).map dotted) := by
  have hcongr : ps.filter (chosen ∘ dotted) = ps.filter chosenPath := List.filter_congr hchosen
  rw [← hcongr, ← List.filter_map]
  exact h.filter chosen

/-- A text is a name of the counterpart exactly if its path leads to a
message there. -/
theorem Unambiguous.contains_eq (h : Unambiguous source counterpart)
    (hsource : InOrder source) (hcounterpart : InOrder counterpart)
    {path : List String} (hpath : path ∈ paths source) :
    (names counterpart).contains (dotted path) = hasMessage counterpart path := by
  rw [Bool.eq_iff_iff, List.contains_iff_mem, mem_names_iff hcounterpart]
  exact h.named_iff ((mem_paths_iff hsource).mp hpath)

/-- Without ambiguity dotted paths stand for messages. -/
theorem byPath_of_unambiguous (hsource : InOrder source)
    (hcounterpart : InOrder counterpart) (h : Unambiguous source counterpart) :
    ByPath source counterpart (compare (names source) (names counterpart)) where
  total := by
    rw [← List.length_map dotted]
    exact (h.names_perm hsource).length_eq
  covered := by
    rw [← List.length_map dotted]
    exact (filter_perm (h.names_perm hsource) fun p hp =>
      h.contains_eq hsource hcounterpart hp).length_eq
  missing := filter_perm (h.names_perm hsource) fun p hp =>
    congrArg not (h.contains_eq hsource hcounterpart hp)
  extra := filter_perm (h.symm.names_perm hcounterpart) fun p hp =>
    congrArg not (h.symm.contains_eq hcounterpart hsource hp)

/-- If the names are as many as the paths, no two paths are the same
text. -/
theorem injective_of_length (h : (names r).length = (paths r).length) {p q : List String}
    (hp : p ∈ paths r) (hq : q ∈ paths r) (heq : dotted p = dotted q) : p = q := by
  have hsubset : names r ⊆ (paths r).map dotted := by
    intro name hname
    exact List.mem_map.mpr (mem_names_iff_paths.mp hname)
  have hlength : ((paths r).map dotted).length ≤ (names r).length := by
    rw [List.length_map, h]
  have hperm := ((nodup_names r).subperm hsubset).perm_of_length_le hlength
  exact List.inj_on_of_nodup_map (hperm.nodup_iff.mp (nodup_names r)) hp hq heq

/-- Messages of the counterpart alone. -/
theorem mem_beyond_iff (hcounterpart : InOrder counterpart) {path : List String} :
    path ∈ (paths counterpart).filter (fun p => !hasMessage source p)
      ↔ hasMessage counterpart path = true ∧ hasMessage source path = false := by
  rw [List.mem_filter, mem_paths_iff hcounterpart, Bool.not_eq_true']

/-- Two messages of the counterpart alone are both extra, and no text is
extra twice. -/
theorem ByPath.eq_of_beyond {c : Coverage} (h : ByPath source counterpart c)
    (hname : ByName source counterpart c) {p q : List String}
    (hp : p ∈ (paths counterpart).filter fun p => !hasMessage source p)
    (hq : q ∈ (paths counterpart).filter fun p => !hasMessage source p)
    (heq : dotted p = dotted q) : p = q := by
  have hnodup := nodup_of_increasing hname.extra_increasing
  exact List.inj_on_of_nodup_map (h.extra.nodup_iff.mp hnodup) hp hq heq

/-- A message of the counterpart with the text of one of the source is not
extra, so the source has it as well. -/
theorem ByPath.hasMessage_of_named {c : Coverage} (h : ByPath source counterpart c)
    (hname : ByName source counterpart c) (hcounterpart : InOrder counterpart)
    {path : List String} (hpath : hasMessage counterpart path = true)
    (hnamed : Named source (dotted path)) : hasMessage source path = true := by
  by_contra hnot
  have hbeyond := (mem_beyond_iff hcounterpart).mpr ⟨hpath, Bool.eq_false_iff.mpr hnot⟩
  have hextra : dotted path ∈ c.extra := h.extra.mem_iff.mpr (List.mem_map.mpr ⟨path, hbeyond, rfl⟩)
  exact ((hname.extra _).mp hextra).2 hnamed

/-- Where dotted paths stand for messages, nothing is ambiguous. -/
theorem unambiguous_of_byPath (hsource : InOrder source)
    (hcounterpart : InOrder counterpart)
    (h : ByPath source counterpart (compare (names source) (names counterpart))) :
    Unambiguous source counterpart := by
  have hname := byName_compare hsource hcounterpart
  have hwithin : ∀ {p q}, hasMessage source p = true → hasMessage source q = true →
      dotted p = dotted q → p = q := fun hp hq =>
    injective_of_length h.total ((mem_paths_iff hsource).mpr hp) ((mem_paths_iff hsource).mpr hq)
  have hacross : ∀ {p q}, hasMessage source p = true → hasMessage counterpart q = true →
      dotted p = dotted q → p = q := fun hp hq heq =>
    hwithin hp (h.hasMessage_of_named hname hcounterpart hq ⟨_, hp, heq⟩) heq
  intro p q hp hq heq
  cases hps : hasMessage source p with
  | true =>
      rcases hq with hq | hq
      · exact hwithin hps hq heq
      · exact hacross hps hq heq
  | false =>
      have hp : hasMessage counterpart p = true := hp.resolve_left (by simp [hps])
      cases hqs : hasMessage source q with
      | true => exact (hacross hqs hp heq.symm).symm
      | false =>
          have hq : hasMessage counterpart q = true := hq.resolve_left (by simp [hqs])
          exact h.eq_of_beyond hname ((mem_beyond_iff hcounterpart).mpr ⟨hp, hps⟩)
            ((mem_beyond_iff hcounterpart).mpr ⟨hq, hqs⟩) heq

/-- A coverage of dotted paths is one of messages exactly if no path is
ambiguous. -/
theorem byPath_compare_iff (hsource : InOrder source)
    (hcounterpart : InOrder counterpart) :
    ByPath source counterpart (compare (names source) (names counterpart))
      ↔ Unambiguous source counterpart :=
  ⟨unambiguous_of_byPath hsource hcounterpart, byPath_of_unambiguous hsource hcounterpart⟩

end Coverage

-- ========================================================== the command

namespace Command

open Coverage

variable {files : Files}

/-- A resource in a file is in order. -/
theorem Files.ordered_of_resource {path : String} {r : Resource}
    (h : files.resource path = .ok r) : r.Ordered := by
  unfold Files.resource at h
  cases hread : files path with
  | error problem => rw [hread] at h; cases h
  | ok text =>
      rw [hread] at h
      cases htext : Resource.ofText text with
      | error fault => simp [htext] at h
      | ok r' =>
          have heq : r' = r := by simpa [htext] using h
          exact heq ▸ (Resource.settled_of_ofText htext).1

/-- A resource in a file that may be missing is in order. -/
theorem Files.ordered_of_resource? {path : String} {r : Option Resource}
    (h : files.resource? path = .ok r) : InOrder r := by
  rintro s rfl
  unfold Files.resource? at h
  split at h
  · cases h
  · cases hresource : files.resource path with
    | error d => rw [hresource] at h; cases h
    | ok s' =>
        rw [hresource] at h
        cases h
        exact Files.ordered_of_resource hresource

/-- A file that holds the text of a resource holds the resource. -/
theorem Files.resource_of_ofText {path text : String} {r : Resource} (h : files path = .ok text)
    (htext : Resource.ofText text = .ok r) : files.resource path = .ok r := by
  unfold Files.resource
  rw [h]
  simp only [htext]

theorem Files.resource?_of_ofText {path text : String} {r : Resource} (h : files path = .ok text)
    (htext : Resource.ofText text = .ok r) : files.resource? path = .ok (some r) := by
  unfold Files.resource?
  rw [Files.resource_of_ofText h htext, h]
  rfl

theorem Files.resource?_of_notFound {path : String} (h : files path = .error .notFound) :
    files.resource? path = .ok none := by
  unfold Files.resource?
  rw [h]

/-- Steps that all succeed succeed together. -/
theorem mapM_ok_of_forall {α β ε : Type} {f : α → Except ε β} {g : α → β} {xs : List α}
    (h : ∀ x ∈ xs, f x = .ok (g x)) : xs.mapM f = .ok (xs.map g) := by
  induction xs with
  | nil => rfl
  | cons x rest ih =>
      obtain ⟨hx, hrest⟩ := List.forall_mem_cons.mp h
      rw [List.mapM_cons, hx, ih hrest]
      rfl

/-- A judged outcome is good exactly if no fault was found. -/
theorem Outcome.code_judged_eq_zero_iff {output : String} {faulty : Bool} :
    (Outcome.judged output faulty).code = 0 ↔ faulty = false := by
  cases faulty <;> simp [judged, code]

theorem Outcome.output_judged (output : String) (faulty : Bool) :
    (Outcome.judged output faulty).output = output := by
  cases faulty <;> rfl

namespace CoverageRequest

variable {r : CoverageRequest} {source : Resource} {counterpart : String → Option Resource}

/-- The report on a language. -/
def reportOf (source : Resource) (counterpart : String → Option Resource) (language : String) :
    LanguageReport := ⟨language, .of source (counterpart language)⟩

/-- Files that can be read give a report on each language. -/
theorem reports_of_files (hsource : files.resource r.source = .ok source)
    (hcounterparts : ∀ l ∈ r.languages, files.resource? (r.fileOf l) = .ok (counterpart l)) :
    r.reports files = .ok (r.languages.map (reportOf source counterpart)) := by
  unfold reports
  rw [hsource]
  refine mapM_ok_of_forall fun l hl => ?_
  rw [hcounterparts l hl]
  rfl

/-- Files that can be read give an outcome that is judged by the reports. -/
theorem run_of_files (hsource : files.resource r.source = .ok source)
    (hcounterparts : ∀ l ∈ r.languages, files.resource? (r.fileOf l) = .ok (counterpart l)) :
    r.run files = .judged (r.print (r.languages.map (reportOf source counterpart)))
      (r.strict && r.languages.any fun l => !(reportOf source counterpart l).coverage.isComplete) := by
  unfold run
  rw [reports_of_files hsource hcounterparts]
  show Outcome.judged _ (_ && (r.languages.map _).any _) = _
  rw [List.any_map]
  rfl

/-- The code is good exactly if nothing is strict or nothing is missing. -/
theorem code_eq_zero_iff (hsource : files.resource r.source = .ok source)
    (hcounterparts : ∀ l ∈ r.languages, files.resource? (r.fileOf l) = .ok (counterpart l)) :
    (r.run files).code = 0 ↔ (r.strict = true → ∀ l ∈ r.languages,
      (Coverage.of source (counterpart l)).isComplete = true) := by
  rw [run_of_files hsource hcounterparts, Outcome.code_judged_eq_zero_iff]
  cases r.strict <;> simp [reportOf]

/-- The command reports on each language in turn, by dotted paths: what the
source and the file of the language have of them, and what only one of
both has. It is a report on messages exactly if no path is ambiguous. The
code is good exactly if nothing is strict or all dotted paths of the source
are in every language; without ambiguity, exactly if all messages of the
source are. -/
theorem reports_by_name (hsource : files.resource r.source = .ok source)
    (hcounterparts : ∀ l ∈ r.languages, files.resource? (r.fileOf l) = .ok (counterpart l)) :
    (∃ reports : List LanguageReport, (r.run files).output = r.print reports ∧
      reports.map LanguageReport.language = r.languages ∧
      ∀ report ∈ reports,
        ByName (some source) (counterpart report.language) report.coverage ∧
        (ByPath (some source) (counterpart report.language) report.coverage
          ↔ Unambiguous (some source) (counterpart report.language))) ∧
    ((r.run files).code = 0 ↔ (r.strict = true → ∀ l ∈ r.languages, ∀ path,
      hasMessage (some source) path = true → Named (counterpart l) (dotted path))) ∧
    ((∀ l ∈ r.languages, Unambiguous (some source) (counterpart l)) →
      ((r.run files).code = 0 ↔ (r.strict = true → ∀ l ∈ r.languages, ∀ path,
        hasMessage (some source) path = true → hasMessage (counterpart l) path = true))) := by
  have hordered : InOrder (some source) := by
    rintro s ⟨⟩
    exact Files.ordered_of_resource hsource
  have hcounter : ∀ l ∈ r.languages, InOrder (counterpart l) := fun l hl =>
    Files.ordered_of_resource? (hcounterparts l hl)
  have hbyName : ∀ l ∈ r.languages,
      ByName (some source) (counterpart l) (.of source (counterpart l)) := fun l hl =>
    byName_compare hordered (hcounter l hl)
  have hcode := code_eq_zero_iff hsource hcounterparts
  have hstrict : (r.run files).code = 0 ↔ (r.strict = true → ∀ l ∈ r.languages, ∀ path,
      hasMessage (some source) path = true → Named (counterpart l) (dotted path)) := by
    rw [hcode]
    exact imp_congr_right fun _ => forall₂_congr fun l hl => (hbyName l hl).isComplete_iff
  refine ⟨⟨r.languages.map (reportOf source counterpart), ?_, ?_, ?_⟩, hstrict, fun hclear => ?_⟩
  · rw [run_of_files hsource hcounterparts, Outcome.output_judged]
  · rw [List.map_map]
    exact List.map_id _
  · intro report hreport
    obtain ⟨l, hl, rfl⟩ := List.mem_map.mp hreport
    exact ⟨hbyName l hl, byPath_compare_iff hordered (hcounter l hl)⟩
  · rw [hstrict]
    exact imp_congr_right fun _ => forall₂_congr fun l hl => forall₂_congr fun path hpath =>
      (hclear l hl).named_iff hpath

/-- Entries with the message `b` of the group `a`, as a file has them. -/
def groupedMembers : List (String × Json) :=
  [("a", .object [("entries", .object [("b", .object [("value", .array [.string "hi"])])])])]

/-- Entries with a message named `a.b`, as a file has them. -/
def pointedMembers : List (String × Json) :=
  [("a.b", .object [("value", .array [.string "hi"])])]

/-- The resource with the message `b` of the group `a`. -/
def grouped : Resource :=
  ⟨"res", "en", [("a", .group [("b", .message (.pattern [.literal (.string "hi")]))])]⟩

/-- The resource with a message named `a.b`. -/
def pointed : Resource :=
  ⟨"res", "en", [("a.b", .message (.pattern [.literal (.string "hi")]))]⟩

/-- A file that holds entries. -/
def fileOfMembers (members : List (String × Json)) : String :=
  Json.compact (.object (Resource.fields "res" "en" members))

theorem ofText_grouped : Resource.ofText (fileOfMembers groupedMembers) = .ok grouped := by
  have hentries : Json.dictionary? Entry.ofJson? groupedMembers = some grouped.entries := rfl
  exact Resource.ofText_fields hentries (by decide) (by decide)

theorem ofText_pointed : Resource.ofText (fileOfMembers pointedMembers) = .ok pointed := by
  have hentries : Json.dictionary? Entry.ofJson? pointedMembers = some pointed.entries := rfl
  exact Resource.ofText_fields hentries (by decide) (by decide)

/-- A file of English entries next to a file of Finnish ones. -/
def filesOf (english finnish : List (String × Json)) : Files := fun path =>
  if path = "en.json" then .ok (fileOfMembers english)
  else if path = "fi.json" then .ok (fileOfMembers finnish)
  else .error .notFound

/-- Asks whether nothing is missing in languages. -/
def nothingMissing (languages : List String) : CoverageRequest :=
  ⟨"en.json", languages, none, false, true⟩

theorem fileOf_nothingMissing (languages : List String) (l : String) :
    (nothingMissing languages).fileOf l = l ++ ".json" := by
  have hparent : Path.parent? "en.json" = some "" := by decide +kernel
  unfold fileOf nothingMissing
  rw [hparent]
  exact if_pos rfl

/-- What two languages have: one the same messages, the other none. -/
def onlyFinnish (l : String) : Option Resource := if l = "fi" then some grouped else none

/-- A language has all messages and another one has no file. -/
theorem reports_by_name_finnish :
    (filesOf groupedMembers groupedMembers).resource "en.json" = .ok grouped ∧
    (∀ l ∈ ["fi", "sv"], (filesOf groupedMembers groupedMembers).resource?
      ((nothingMissing ["fi", "sv"]).fileOf l) = .ok (onlyFinnish l)) ∧
    (∀ l ∈ ["fi", "sv"], Unambiguous (some grouped) (onlyFinnish l)) ∧
    ((nothingMissing ["fi", "sv"]).run (filesOf groupedMembers groupedMembers)).code ≠ 0 := by
  have hsource : (filesOf groupedMembers groupedMembers).resource "en.json" = .ok grouped :=
    Files.resource_of_ofText (if_pos rfl) ofText_grouped
  have hcounterparts : ∀ l ∈ ["fi", "sv"], (filesOf groupedMembers groupedMembers).resource?
      ((nothingMissing ["fi", "sv"]).fileOf l) = .ok (onlyFinnish l) := by
    intro l hl
    rw [fileOf_nothingMissing]
    rcases List.mem_pair.mp hl with rfl | rfl
    · exact Files.resource?_of_ofText rfl ofText_grouped
    · exact Files.resource?_of_notFound rfl
  have hpaths : ∀ l path, hasMessage (onlyFinnish l) path = true → path = ["a", "b"] := by
    intro l path hpath
    unfold onlyFinnish at hpath
    split at hpath
    · have hordered : InOrder (some grouped) := by
        rintro s ⟨⟩
        exact Files.ordered_of_resource hsource
      exact List.mem_singleton.mp ((mem_paths_iff hordered).mpr hpath)
    · cases hpath
  have hclear : ∀ l ∈ ["fi", "sv"], Unambiguous (some grouped) (onlyFinnish l) := by
    intro l hl
    refine unambiguous_of_pointless fun path hpath => ?_
    have heq : path = ["a", "b"] := hpath.elim (hpaths "fi" path) (hpaths l path)
    rw [heq]
    decide
  have hcode := (@reports_by_name _ (nothingMissing ["fi", "sv"]) grouped onlyFinnish
    hsource hcounterparts).2.2 hclear
  refine ⟨hsource, hcounterparts, hclear, fun hzero => ?_⟩
  have hswedish := hcode.mp hzero rfl "sv" (by decide) ["a", "b"] rfl
  cases hswedish

/-- A message counts as covered although the language has none at its
path. -/
theorem covered_by_another_message :
    (filesOf groupedMembers pointedMembers).resource "en.json" = .ok grouped ∧
    (filesOf groupedMembers pointedMembers).resource? ((nothingMissing ["fi"]).fileOf "fi")
      = .ok (some pointed) ∧
    hasMessage (some grouped) ["a", "b"] = true ∧ hasMessage (some pointed) ["a", "b"] = false ∧
    ((nothingMissing ["fi"]).run (filesOf groupedMembers pointedMembers)).code = 0 := by
  have hsource : (filesOf groupedMembers pointedMembers).resource "en.json" = .ok grouped :=
    Files.resource_of_ofText (if_pos rfl) ofText_grouped
  have hfinnish : (filesOf groupedMembers pointedMembers).resource?
      ((nothingMissing ["fi"]).fileOf "fi") = .ok (some pointed) := by
    rw [fileOf_nothingMissing]
    exact Files.resource?_of_ofText rfl ofText_pointed
  have hcounterparts : ∀ l ∈ ["fi"], (filesOf groupedMembers pointedMembers).resource?
      ((nothingMissing ["fi"]).fileOf l) = .ok (some pointed) := by
    intro l hl
    rw [List.mem_singleton.mp hl]
    exact hfinnish
  have hcode := @code_eq_zero_iff _ (nothingMissing ["fi"]) grouped (fun _ => some pointed)
    hsource hcounterparts
  refine ⟨hsource, hfinnish, rfl, rfl, hcode.mpr fun _ l hl => ?_⟩
  decide +kernel

end CoverageRequest

end Command

end MessageCatalog
