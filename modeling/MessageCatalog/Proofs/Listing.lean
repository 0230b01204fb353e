/-
What a resource lists.

The walk around a resource in order meets a message with its path exactly
if the message is the one at that path (`Resource.mem_messages_iff`). It
meets them in the order of their paths, so each of them once
(`Resource.messages_increasing`). Another walk gathers the paths as texts,
and meets the same ones (`dottedPathsOfEntries_eq`). The texts are put in
order again, since points between names sort differently from ends of
names (`Resource.walks_list_addressed`); what is left after that without
repetition increases, too (`Resource.distinctPaths_increasing`).
-/
import MessageCatalog.Coverage
import MessageCatalog.Proofs.Wire.Resource

namespace MessageCatalog

variable {q : List String × Message}

-- ============================================================ the walk

mutual

/-- What the walk around an entry in order meets lies at a path from that
entry. -/
theorem Entry.at?_of_mem_messages (before : List String) : ∀ e : Entry, e.Ordered →
    q ∈ e.messages before → ∃ path, q.1 = before ++ path ∧ e.at? path = some (.message q.2)
  | .message m, _, hq => by
      cases List.mem_singleton.mp hq
      exact ⟨[], (List.append_nil before).symm, rfl⟩
  | .group entries, h, hq => by
      obtain ⟨p, hp, path, hpath, hat⟩ := at?_of_mem_messagesOfEntries before entries h.2 hq
      refine ⟨p.1 :: path, hpath, ?_⟩
      rw [Entry.at?, Dictionary.get?_of_mem h.1 hp]
      exact hat

theorem at?_of_mem_messagesOfEntries (before : List String) : ∀ entries : List (String × Entry),
    OrderedEntries entries → q ∈ messagesOfEntries before entries →
      ∃ p ∈ entries, ∃ path, q.1 = before ++ p.1 :: path ∧ p.2.at? path = some (.message q.2)
  | [], _, hq => nomatch hq
  | (name, e) :: rest, h, hq => by
      rw [messagesOfEntries] at hq
      rcases List.mem_append.mp hq with hq | hq
      · obtain ⟨path, hpath, hat⟩ := Entry.at?_of_mem_messages (before ++ [name]) e h.1 hq
        rw [List.append_assoc] at hpath
        exact ⟨(name, e), List.mem_cons_self .., path, hpath, hat⟩
      · obtain ⟨p, hp, hlies⟩ := at?_of_mem_messagesOfEntries before rest h.2 hq
        exact ⟨p, List.mem_cons_of_mem _ hp, hlies⟩

end

mutual

/-- The walk around an entry in order follows the order of the paths. -/
theorem Entry.messages_increasing (before : List String) : ∀ e : Entry, e.Ordered →
    (e.messages before).Pairwise fun a b => a.1 < b.1
  | .message _, _ => List.pairwise_singleton _ _
  | .group entries, h => messagesOfEntries_increasing before entries h.1 h.2

theorem messagesOfEntries_increasing (before : List String) :
    ∀ entries : List (String × Entry), Dictionary.Ordered entries → OrderedEntries entries →
      (messagesOfEntries before entries).Pairwise fun a b => a.1 < b.1
  | [], _, _ => .nil
  | (name, e) :: rest, h, hentries => by
      obtain ⟨hhead, hrest⟩ := List.pairwise_cons.mp h
      rw [messagesOfEntries]
      refine List.pairwise_append.mpr ⟨Entry.messages_increasing _ e hentries.1,
        messagesOfEntries_increasing before rest hrest hentries.2, fun a ha b hb => ?_⟩
      -- Paths from different entries part at the names of these.
      obtain ⟨path, hpath, -⟩ := Entry.at?_of_mem_messages (before ++ [name]) e hentries.1 ha
      obtain ⟨p, hp, path', hpath', -⟩ := at?_of_mem_messagesOfEntries before rest hentries.2 hb
      rw [hpath, hpath', List.append_assoc]
      exact List.append_left_lt (List.cons_lt_cons_iff.mpr (.inl (hhead p hp)))

end

namespace Resource

variable {r : Resource}

/-- The messages that are listed are those that lie at paths. -/
theorem mem_messages_iff (h : r.Ordered) {path : List String} {m : Message} :
    (path, m) ∈ r.messages ↔ r.message? path = some m := by
  refine ⟨fun hmem => ?_, mem_messages⟩
  obtain ⟨p, hp, rest, hpath, hat⟩ := at?_of_mem_messagesOfEntries [] r.entries h.2 hmem
  have hpath : path = p.1 :: rest := hpath
  have hget : Dictionary.get? p.1 r.entries = some p.2 := Dictionary.get?_of_mem h.1 hp
  rw [hpath, message?, entryAt?, hget, Option.bind_some, hat]
  rfl

/-- Messages are listed in the order of their paths. -/
theorem messages_increasing (h : r.Ordered) : r.messages.Pairwise fun a b => a.1 < b.1 :=
  messagesOfEntries_increasing [] r.entries h.1 h.2

/-- The paths that are listed are those of messages. -/
theorem mem_paths_iff (h : r.Ordered) {path : List String} :
    path ∈ r.messages.map Prod.fst ↔ (r.message? path).isSome := by
  simp [Option.isSome_iff_exists, mem_messages_iff h]

/-- No path is listed twice. -/
theorem nodup_paths (h : r.Ordered) : (r.messages.map Prod.fst).Nodup := by
  refine List.pairwise_map.mpr ((messages_increasing h).imp fun hlt heq => ?_)
  rw [heq] at hlt
  exact List.lt_irrefl _ hlt

/-- Of the messages that are listed one has a given path, if there is a
message at that path, and none otherwise. -/
theorem filter_messages (h : r.Ordered) (path : List String) :
    (r.messages.filter fun q => q.1 == path)
      = ((r.message? path).map fun m => (path, m)).toList := by
  cases hm : r.message? path with
  | none =>
      rw [Option.map_none, Option.toList_none, List.filter_eq_nil_iff]
      rintro ⟨path', m⟩ hmem heq
      obtain rfl : path' = path := eq_of_beq heq
      rw [(mem_messages_iff h).mp hmem] at hm
      cases hm
  | some m =>
      obtain ⟨before, after, hsplit⟩ := List.append_of_mem (mem_messages hm)
      have hincreasing := messages_increasing h
      rw [hsplit] at hincreasing ⊢
      obtain ⟨-, hafter, hbefore⟩ := List.pairwise_append.mp hincreasing
      -- All paths before this one are smaller, and all behind it are greater.
      have hnone : (before.filter fun q => q.1 == path) = [] :=
        List.filter_eq_nil_iff.mpr fun q hq heq => by
          have hlt : q.1 < path := hbefore q hq _ (List.mem_cons_self ..)
          rw [eq_of_beq heq] at hlt
          exact List.lt_irrefl path hlt
      have hnone' : (after.filter fun q => q.1 == path) = [] :=
        List.filter_eq_nil_iff.mpr fun q hq heq => by
          have hlt : path < q.1 := (List.pairwise_cons.mp hafter).1 q hq
          rw [eq_of_beq heq] at hlt
          exact List.lt_irrefl path hlt
      rw [List.filter_append, List.filter_cons, if_pos (beq_self_eq_true path), hnone, hnone']
      rfl

end Resource

-- ======================================================== paths as texts

mutual

/-- The walk that gathers dotted paths meets those of the messages. -/
theorem Entry.dottedPaths_eq (before : List String) : ∀ e : Entry,
    e.dottedPaths before = (e.messages before).map fun q => dotted q.1
  | .message _ => by rw [Entry.dottedPaths, Entry.messages, List.map_singleton]
  | .group entries => by
      rw [Entry.dottedPaths, Entry.messages, dottedPathsOfEntries_eq before entries]

theorem dottedPathsOfEntries_eq (before : List String) : ∀ entries : List (String × Entry),
    dottedPathsOfEntries before entries
      = (messagesOfEntries before entries).map fun q => dotted q.1
  | [] => rfl
  | (name, e) :: rest => by
      rw [dottedPathsOfEntries, messagesOfEntries, List.map_append,
        Entry.dottedPaths_eq (before ++ [name]) e, dottedPathsOfEntries_eq before rest]

end

/-- What is left of an ordered list without repetition increases. -/
theorem eraseDups_increasing : ∀ {names : List String}, names.Pairwise (· ≤ ·) →
    names.eraseDups.Pairwise (· < ·)
  | [], _ => .nil
  | name :: rest, h => by
      obtain ⟨hhead, hrest⟩ := List.pairwise_cons.mp h
      rw [List.eraseDups_cons]
      refine List.pairwise_cons.mpr ⟨fun other hother => ?_, eraseDups_increasing (hrest.filter _)⟩
      obtain ⟨hmem, hne⟩ := List.mem_filter.mp (List.mem_eraseDups.mp hother)
      exact Std.lt_of_le_of_ne (hhead other hmem) fun heq => by simp [heq] at hne
termination_by names => names.length
decreasing_by exact Nat.lt_succ_of_le (List.length_filter_le _ _)

namespace Resource

/-- The dotted paths are those of the messages, each as often as there are
messages with it. -/
theorem messagePaths_perm (r : Resource) :
    r.messagePaths.Perm (r.messages.map fun q => dotted q.1) := by
  unfold messagePaths messages
  rw [← dottedPathsOfEntries_eq]
  exact List.mergeSort_perm ..

/-- The dotted paths of the messages are in order. -/
theorem messagePaths_ordered (r : Resource) : r.messagePaths.Pairwise (· ≤ ·) := by
  have htrans : ∀ a b c : String, decide (a ≤ b) = true → decide (b ≤ c) = true →
      decide (a ≤ c) = true := by
    simpa using fun a b c : String => String.le_trans
  have htotal : ∀ a b : String, (decide (a ≤ b) || decide (b ≤ a)) = true := by
    simpa using String.le_total
  exact (List.pairwise_mergeSort htrans htotal _).imp of_decide_eq_true

/-- The distinct dotted paths of the messages increase. -/
theorem distinctPaths_increasing (r : Resource) : r.distinctPaths.Pairwise (· < ·) :=
  eraseDups_increasing r.messagePaths_ordered

/-- The distinct dotted paths are those of the messages. -/
theorem mem_distinctPaths_iff {r : Resource} {name : String} :
    name ∈ r.distinctPaths ↔ ∃ q ∈ r.messages, dotted q.1 = name := by
  unfold distinctPaths
  rw [List.mem_eraseDups, r.messagePaths_perm.mem_iff, List.mem_map]

/-- Both walks around a resource list what can be addressed. The walk
around its messages meets at each path the message that lies there, once,
and no other, and follows the order of the paths. And the sorted dotted
paths are those of all paths under which there is a message, each as often
as there are such paths. -/
theorem walks_list_addressed {r : Resource} (h : r.Ordered) :
    (∀ path, (r.messages.filter fun q => q.1 == path)
        = ((r.message? path).map fun m => (path, m)).toList) ∧
    (r.messages.map Prod.fst).Pairwise (· < ·) ∧
    r.messagePaths.Pairwise (· ≤ ·) ∧
    ∀ paths : List (List String), paths.Nodup →
      (∀ path, path ∈ paths ↔ (r.message? path).isSome) →
      r.messagePaths.Perm (paths.map dotted) := by
  refine ⟨filter_messages h, List.pairwise_map.mpr (messages_increasing h),
    r.messagePaths_ordered, fun paths hnodup hmem => ?_⟩
  have hperm : (r.messages.map Prod.fst).Perm paths :=
    (List.perm_ext_iff_of_nodup (nodup_paths h) hnodup).mpr fun path =>
      (mem_paths_iff h).trans (hmem path).symm
  have hdotted := hperm.map dotted
  rw [List.map_map] at hdotted
  exact r.messagePaths_perm.trans hdotted

/-- A message without a name, two with the same dotted path, and a group
without messages. -/
def oddNames : Resource :=
  ⟨"odd", "en",
    [("", .message (.pattern [])),
      ("a", .group [("b", .message (.pattern [])), ("c", .group [])]),
      ("a.b", .message (.pattern []))]⟩

theorem walks_list_addressed_oddNames :
    oddNames.Ordered ∧
    (oddNames.messages.filter fun q => q.1 == ["a", "c"]) = [] ∧
    (oddNames.messages.map Prod.fst).Pairwise (· < ·) ∧
    oddNames.messagePaths.Perm ([["a.b"], ["a", "b"], [""]].map dotted) := by
  have hordered : oddNames.Ordered := by
    simp only [oddNames, Ordered, OrderedEntries, Entry.Ordered, Message.Ordered,
      Element.OrderedIn, Dictionary.Ordered]
    decide
  obtain ⟨hlisted, hincreasing, -, hpaths⟩ := walks_list_addressed hordered
  refine ⟨hordered, hlisted ["a", "c"], hincreasing, hpaths _ (by decide) fun path => ?_⟩
  rw [← mem_paths_iff hordered]
  have hlist : oddNames.messages.map Prod.fst = [[""], ["a", "b"], ["a.b"]] := rfl
  rw [hlist]
  simp only [List.mem_cons, List.not_mem_nil, or_false]
  tauto

end Resource

end MessageCatalog
