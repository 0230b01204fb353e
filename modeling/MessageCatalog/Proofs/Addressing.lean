/-
Which messages can be asked for by name.

The command `format` takes the name of a message as one word and splits it
at its points. Splitting and joining undo each other on one side only:
every word is the dotted form of what it is split into (`dotted_split`),
but a path comes back from its dotted form exactly if no name on it has a
point (`split_dotted_iff`). So different words always ask for different
paths, and the messages that no word asks for are those with a point in
their own name or in that of a group around them.

What a resource lists is right exactly if there is no such message: then
no name is listed twice, each listed name asks for a message, and every
message is asked for by a listed name (`listed_names_reach_messages`).
-/
import MessageCatalog.Proofs.Catalog
import MessageCatalog.Proofs.Coverage

namespace MessageCatalog

-- =============================================== splitting and joining

namespace Text

/-- Pieces are what the library splits lists into. -/
theorem pieces_eq_splitOn (separator : Char) (cs : List Char) :
    pieces separator cs = cs.splitOn separator := by
  rw [List.splitOn_eq_splitOnP]
  induction cs with
  | nil => rfl
  | cons c rest ih =>
      have hsome : pieces separator rest ≠ [] := by
        rw [ih]
        exact List.splitOnP_ne_nil _ _
      rw [pieces, List.splitOnP_cons_eq_if_modifyHead, ← ih]
      by_cases hc : c = separator
      · simp [hc]
      · have hne : (c == separator) = false := by simpa using hc
        rw [if_neg hc, hne]
        cases hpieces : pieces separator rest with
        | nil => exact absurd hpieces hsome
        | cons piece more => simp

/-- No piece has the separator. -/
theorem not_mem_of_mem_pieces {separator : Char} {cs piece : List Char}
    (h : piece ∈ pieces separator cs) : separator ∉ piece := by
  induction cs generalizing piece with
  | nil => simp_all [pieces]
  | cons c rest ih =>
      rw [pieces] at h
      by_cases hc : c = separator
      · rw [if_pos hc] at h
        rcases List.mem_cons.mp h with rfl | h
        · simp
        · exact ih h
      · rw [if_neg hc] at h
        cases hpieces : pieces separator rest with
        | nil =>
            rw [hpieces] at h
            rw [List.mem_singleton.mp h]
            simpa using Ne.symm hc
        | cons first more =>
            rw [hpieces] at h
            rcases List.mem_cons.mp h with rfl | h
            · have hfirst : separator ∉ first := ih (by simp [hpieces])
              simp [hfirst, Ne.symm hc]
            · exact ih (by simp [hpieces, h])

end Text

/-- No name on the path has a point. -/
def Pointless (path : List String) : Prop := ∀ name ∈ path, '.' ∉ name.toList

theorem toList_dotted (path : List String) :
    (dotted path).toList = ['.'].intercalate (path.map String.toList) :=
  String.toList_intercalate

/-- A word is the dotted form of what it is split into. -/
theorem dotted_split (word : String) : dotted (Text.split '.' word) = word := by
  apply String.toList_inj.mp
  have htoList : (Text.split '.' word).map String.toList = word.toList.splitOn '.' := by
    unfold Text.split
    rw [Text.pieces_eq_splitOn, List.map_map]
    simp [Function.comp_def]
  rw [toList_dotted, htoList, List.intercalate_splitOn]

theorem split_injective {word word' : String} (h : Text.split '.' word = Text.split '.' word') :
    word = word' := by
  rw [← dotted_split word, h, dotted_split]

theorem pointless_split (word : String) : Pointless (Text.split '.' word) := by
  intro name hname
  obtain ⟨piece, hpiece, rfl⟩ := List.mem_map.mp hname
  rw [String.toList_ofList]
  exact Text.not_mem_of_mem_pieces hpiece

theorem split_ne_nil (word : String) : Text.split '.' word ≠ [] := by
  unfold Text.split
  rw [Text.pieces_eq_splitOn]
  simp

/-- A path comes back from its dotted form exactly if no name on it has a
point. -/
theorem split_dotted_iff {path : List String} (h : path ≠ []) :
    Text.split '.' (dotted path) = path ↔ Pointless path := by
  constructor
  · intro hsplit
    rw [← hsplit]
    exact pointless_split _
  · intro hpointless
    exact dotted_injective (split_ne_nil _) h (pointless_split _) hpointless (dotted_split _)

/-- Some word is split into the path exactly if no name on it has a
point. -/
theorem exists_split_iff {path : List String} (h : path ≠ []) :
    (∃ word, Text.split '.' word = path) ↔ Pointless path := by
  constructor
  · rintro ⟨word, rfl⟩
    exact pointless_split word
  · intro hpointless
    exact ⟨dotted path, (split_dotted_iff h).mpr hpointless⟩

-- ======================================================== listed names

namespace Resource

variable {r : Resource}

/-- No message has a point in its name or in that of a group around it. -/
def PointlessNames (r : Resource) : Prop :=
  ∀ path, (r.message? path).isSome → Pointless path

theorem ne_nil_of_message {path : List String} (h : (r.message? path).isSome) : path ≠ [] := by
  rintro rfl
  exact nomatch h

/-- The listed names are the dotted paths of messages. -/
theorem mem_messagePaths_iff (h : r.Ordered) {name : String} :
    name ∈ r.messagePaths ↔ ∃ path, (r.message? path).isSome ∧ dotted path = name := by
  rw [r.messagePaths_perm.mem_iff, List.mem_map]
  constructor
  · rintro ⟨q, hq, rfl⟩
    exact ⟨q.1, (mem_paths_iff h).mp (List.mem_map_of_mem hq), rfl⟩
  · rintro ⟨path, hpath, rfl⟩
    obtain ⟨q, hq, rfl⟩ := List.mem_map.mp ((mem_paths_iff h).mpr hpath)
    exact ⟨q, hq, rfl⟩

/-- Without points in the names no name is listed twice. -/
theorem nodup_messagePaths (h : r.Ordered) (hpointless : r.PointlessNames) :
    r.messagePaths.Nodup := by
  have hdotted : ((r.messages.map Prod.fst).map dotted).Nodup := by
    refine (nodup_paths h).map_on fun p hp q hq heq => ?_
    have hp := (mem_paths_iff h).mp hp
    have hq := (mem_paths_iff h).mp hq
    exact dotted_injective (ne_nil_of_message hp) (ne_nil_of_message hq) (hpointless p hp)
      (hpointless q hq) heq
  rw [List.map_map] at hdotted
  exact r.messagePaths_perm.nodup_iff.mpr hdotted

/-- Without points in the names a listed name is split into the path of the
message that it was listed for. -/
theorem message?_split (h : r.Ordered) (hpointless : r.PointlessNames) {name : String}
    (hname : name ∈ r.messagePaths) : (r.message? (Text.split '.' name)).isSome := by
  obtain ⟨path, hpath, rfl⟩ := (mem_messagePaths_iff h).mp hname
  rw [(split_dotted_iff (ne_nil_of_message hpath)).mpr (hpointless path hpath)]
  exact hpath

/-- Every message is asked for by a listed name exactly if there are no
points in the names. -/
theorem all_reached_iff (h : r.Ordered) :
    (∀ path, (r.message? path).isSome → ∃ name ∈ r.messagePaths, Text.split '.' name = path)
      ↔ r.PointlessNames := by
  constructor
  · intro hreached path hpath
    obtain ⟨name, -, rfl⟩ := hreached path hpath
    exact pointless_split name
  · intro hpointless path hpath
    exact ⟨dotted path, (mem_messagePaths_iff h).mpr ⟨path, hpath, rfl⟩,
      (split_dotted_iff (ne_nil_of_message hpath)).mpr (hpointless path hpath)⟩

end Resource

-- ========================================================= the command

namespace Command

variable {file : String} {files : Files} {r : Resource}

/-- The words that ask for the message with a name in a file. -/
def formatWords (file name : String) : List String :=
  ["format", "--resource=" ++ file, "--", name]

/-- What these words ask for. -/
def formatRequest (file name : String) : FormatRequest :=
  ⟨file, [], none, [defaultLocale], [], .text, false, Text.split '.' name⟩

theorem look_resource (file : String) :
    Look.of ("--resource=" ++ file) = .long "resource" (some file) := by
  unfold Look.of
  rw [String.toList_append]
  simp [splitEquals]

theorem read_format (hfile : file ≠ "") (name : String) :
    Words.read .format ["--resource=" ++ file, "--", name]
      = .ok ⟨[⟨"resource", file⟩], [name], none, true⟩ := by
  have hpath : Form.isPath file = true := bne_iff_ne.mpr hfile
  have hlong : Words.start.next .format ("--resource=" ++ file)
      = Words.start.withValue Form.resource file := by
    unfold Words.next
    rw [look_resource]
    rfl
  have hresource : Words.start.next .format ("--resource=" ++ file)
      = .ok ⟨[⟨"resource", file⟩], [], none, false⟩ := by
    rw [hlong, Words.withValue, Form.resource]
    dsimp only
    rw [if_pos hpath]
    rfl
  unfold Words.read
  rw [List.foldlM_cons, hresource]
  rfl

/-- Any word behind the divider is taken for a name. -/
theorem ofWords_formatWords (hfile : file ≠ "") (name : String) :
    Request.ofWords (formatWords file name) = .ok (.auto, .format (formatRequest file name)) := by
  have hhead : Words.readHead .head .start (formatWords file name)
      = .ok (.start, "format", ["--resource=" ++ file, "--", name]) := rfl
  have hcommand : Request.ofCommand "format" ["--resource=" ++ file, "--", name]
      = .ok (⟨[⟨"resource", file⟩], [name], none, true⟩, .format (formatRequest file name)) := by
    simp only [Request.ofCommand]
    rw [read_format hfile]
    rfl
  unfold Request.ofWords
  rw [hhead]
  dsimp only [bind, Except.bind]
  rw [hcommand]
  rfl

/-- The outcome for a message of a resource that stands alone: its text, or
why it has none. -/
def shown (r : Resource) (m : Message) : Outcome :=
  match formatText ((Catalog.empty.add r).2.context r.id (.ofDictionary [])) m with
  | .ok text => .success (unlines [text])
  | .error e => .failure "" (unlines ["Format error: " ++ e.message])

/-- The outcome for a name that asks for no message. -/
def notFound (r : Resource) (name : String) : Outcome :=
  .failure "" (unlines ["Format error: " ++ (FormatError.messageNotFound r.id name).message])

theorem catalog_formatRequest (h : files.resource file = .ok r) (name : String) :
    (formatRequest file name).catalog files = .ok (r.id, (Catalog.empty.add r).2) := by
  unfold FormatRequest.catalog formatRequest
  rw [h]
  rfl

/-- A catalog of one resource has the messages of that resource. -/
theorem lookup_alone (r : Resource) (path : List String) :
    (Catalog.empty.add r).2.lookup (some r.id) path = r.message? path := by
  unfold Catalog.lookup
  rw [Option.bind_some, Catalog.resource?_add_self]
  rfl

theorem result_formatRequest (file name : String) (r : Resource) :
    (formatRequest file name).result (Catalog.empty.add r).2 r.id
      = (r.message? (Text.split '.' name)).elim (.error (.messageNotFound r.id name))
        (formatText ((Catalog.empty.add r).2.context r.id (.ofDictionary []))) := by
  show (do
    let m ← (Catalog.empty.add r).2.requireMessage r.id (Text.split '.' name)
    formatText ((Catalog.empty.add r).2.context r.id (.ofDictionary [])) m) = _
  rw [Catalog.requireMessage_eq, lookup_alone, dotted_split]
  cases r.message? (Text.split '.' name) <;> rfl

/-- The command asks for the message at the path that the name is split
into. -/
theorem run_formatWords (hfile : file ≠ "") (h : files.resource file = .ok r) (colored : Bool)
    (name : String) : run colored files (formatWords file name)
      = (r.message? (Text.split '.' name)).elim (notFound r name) (shown r) := by
  unfold run
  rw [ofWords_formatWords hfile]
  show (formatRequest file name).run files = _
  unfold FormatRequest.run
  rw [catalog_formatRequest h]
  show Outcome.ofExcept (match (formatRequest file name).result (Catalog.empty.add r).2 r.id with
    | .ok text => .ok (.success (unlines [text]))
    | .error e => .ok (.failure "" (unlines [(formatRequest file name).complaint e]))) = _
  rw [result_formatRequest]
  cases r.message? (Text.split '.' name) with
  | none => rfl
  | some m =>
      rw [Option.elim_some, Option.elim_some, shown]
      cases formatText ((Catalog.empty.add r).2.context r.id (.ofDictionary [])) m <;> rfl

/-- What the listed names of a resource are good for. The command formats
the message at the path that a name is split into, whatever the name is,
and different names are split into different paths. A message is asked for
by some name exactly if its path has no point in it. So no name is listed
twice, each listed name asks for a message and every message is asked for
by a listed name, all three together, exactly if there are no points in
the names of messages and of the groups around them. -/
theorem listed_names_reach_messages (hfile : file ≠ "") (h : files.resource file = .ok r) :
    (∀ colored name, run colored files (formatWords file name)
      = (r.message? (Text.split '.' name)).elim (notFound r name) (shown r)) ∧
    (∀ name name' : String, Text.split '.' name = Text.split '.' name' → name = name') ∧
    (∀ path, (r.message? path).isSome →
      ((∃ name, Text.split '.' name = path) ↔ Pointless path)) ∧
    ((r.messagePaths.Nodup ∧
        (∀ name ∈ r.messagePaths, (r.message? (Text.split '.' name)).isSome) ∧
        ∀ path, (r.message? path).isSome →
          ∃ name ∈ r.messagePaths, Text.split '.' name = path)
      ↔ r.PointlessNames) := by
  have hordered : r.Ordered := Files.ordered_of_resource h
  refine ⟨run_formatWords hfile h, fun _ _ => split_injective, fun path hpath =>
    exists_split_iff (Resource.ne_nil_of_message hpath), ?_⟩
  constructor
  · rintro ⟨-, -, hreached⟩
    exact (Resource.all_reached_iff hordered).mp hreached
  · intro hpointless
    exact ⟨Resource.nodup_messagePaths hordered hpointless,
      fun name => Resource.message?_split hordered hpointless,
      (Resource.all_reached_iff hordered).mpr hpointless⟩

open CoverageRequest (grouped pointed groupedMembers pointedMembers filesOf ofText_grouped
  ofText_pointed)

/-- The message `b` of the group `a` is asked for by `a.b`. -/
theorem listed_names_reach_messages_grouped :
    (filesOf groupedMembers groupedMembers).resource "en.json" = .ok grouped ∧
    grouped.messagePaths.Nodup ∧ Text.split '.' "a.b" = ["a", "b"] ∧
    run false (filesOf groupedMembers groupedMembers) (formatWords "en.json" "a.b")
      = .success "hi\n" := by
  have hfile : (filesOf groupedMembers groupedMembers).resource "en.json" = .ok grouped :=
    Files.resource_of_ofText (if_pos rfl) ofText_grouped
  obtain ⟨hrun, -, -, hlisted⟩ := listed_names_reach_messages (by decide) hfile
  have hsplit : Text.split '.' "a.b" = ["a", "b"] := by decide +kernel
  have hpointless : grouped.PointlessNames := by
    intro path hpath
    have hmem := (Resource.mem_paths_iff (Files.ordered_of_resource hfile)).mpr hpath
    rw [List.mem_singleton.mp hmem]
    unfold Pointless
    decide
  refine ⟨hfile, (hlisted.mpr hpointless).1, hsplit, ?_⟩
  rw [hrun, hsplit]
  decide +kernel

/-- A message whose own name has a point is listed, and asking for it by the
listed name fails. -/
theorem listed_name_not_found :
    (filesOf pointedMembers pointedMembers).resource "en.json" = .ok pointed ∧
    pointed.messagePaths = ["a.b"] ∧ (pointed.message? ["a.b"]).isSome ∧
    pointed.message? (Text.split '.' "a.b") = none ∧
    run false (filesOf pointedMembers pointedMembers) (formatWords "en.json" "a.b")
      = notFound pointed "a.b" := by
  have hfile : (filesOf pointedMembers pointedMembers).resource "en.json" = .ok pointed :=
    Files.resource_of_ofText (if_pos rfl) ofText_pointed
  have hmissing : pointed.message? (Text.split '.' "a.b") = none := by decide +kernel
  refine ⟨hfile, ?_, rfl, hmissing, ?_⟩
  · decide +kernel
  · rw [run_formatWords (by decide) hfile, hmissing]
    rfl

end Command

end MessageCatalog
