/-
User-perceived characters.

A cluster is a run of characters that belongs together: a letter with
its marks, a syllable of Hangul jamo, a flag, a pictograph joined from
several. The rules forbid a break between two neighbours; which
neighbours those are depends on what has been read of the cluster, kept
here as a small state.
-/
import MessageCatalog.Text.Marks
import MessageCatalog.Text.Cluster.Table

namespace MessageCatalog.Text

/-- The class of a character in the rules of cluster breaks. -/
inductive ClusterClass where
  | carriageReturn
  | lineFeed
  | control
  | extend
  | joiner
  | indicator
  | prepend
  | spacing
  | leading
  | vowel
  | trailing
  | syllable
  | closedSyllable
  | other
deriving DecidableEq, Repr

/-- The class of a character. The vowel signs of Kirat Rai combine as the
vowels of Hangul do. A Hangul syllable is closed unless its place in the
block is a multiple of the number of final consonants. -/
def clusterClass (c : Char) : ClusterClass :=
  let n := c.toNat
  if n = 13 then .carriageReturn
  else if n = 10 then .lineFeed
  else if n = 0x200d then .joiner
  else if clusterControl.contains n then .control
  else if n < 0x300 then .other
  else if graphemeExtend.contains n || (0x1f3fb ≤ n && n ≤ 0x1f3ff) then .extend
  else if 0x1f1e6 ≤ n && n ≤ 0x1f1ff then .indicator
  else if clusterPrepend.contains n then .prepend
  else if spacingMark.contains n then .spacing
  else if (0x1100 ≤ n && n ≤ 0x115f) || (0xa960 ≤ n && n ≤ 0xa97c) then .leading
  else if (0x1160 ≤ n && n ≤ 0x11a7) || (0xd7b0 ≤ n && n ≤ 0xd7c6) then .vowel
  else if n = 0x16d63 || (0x16d67 ≤ n && n ≤ 0x16d6a) then .vowel
  else if (0x11a8 ≤ n && n ≤ 0x11ff) || (0xd7cb ≤ n && n ≤ 0xd7fb) then .trailing
  else if 0xac00 ≤ n && n ≤ 0xd7a3 then
    if (n - 0xac00) % 28 = 0 then .syllable else .closedSyllable
  else .other

/-- What the breaks ahead depend on. -/
structure ClusterState where
  /-- The class of the last character. -/
  last : ClusterClass
  /-- Whether an odd number of regional indicators has just been read. -/
  oddIndicators : Bool
  /-- Whether the cluster ends in a pictograph with its marks. -/
  pictograph : Bool
  /-- Whether it ends in such a pictograph and a joiner. -/
  joined : Bool
  /-- Whether it ends in an Indic consonant with its marks. -/
  consonant : Bool
  /-- Whether a linker is among those marks. -/
  linked : Bool

/-- The state after a character that follows the given state. -/
def ClusterState.step (s : ClusterState) (c : Char) : ClusterState :=
  let k := clusterClass c
  let linker := indicLinker.contains c.toNat
  let attaches := (k = .extend ∧ c.toNat ≠ 0x200c) ∨ k = .joiner
  { last := k
    oddIndicators := k = .indicator && !s.oddIndicators
    pictograph := pictographic.contains c.toNat || (s.pictograph && k = .extend)
    joined := s.pictograph && k = .joiner
    consonant := indicConsonant.contains c.toNat || (s.consonant && attaches)
    linked := s.consonant && attaches && (s.linked || linker) }

/-- The state before the first character. -/
def ClusterState.start : ClusterState := ⟨.control, false, false, false, false, false⟩

/-- Whether the next character belongs to the cluster read so far. -/
def ClusterState.holds (s : ClusterState) (c : Char) : Bool :=
  let k := clusterClass c
  if s.last = .carriageReturn then k = .lineFeed
  else if s.last = .lineFeed ∨ s.last = .control then false
  else if k = .carriageReturn ∨ k = .lineFeed ∨ k = .control then false
  else if s.last = .leading ∧
      (k = .leading ∨ k = .vowel ∨ k = .syllable ∨ k = .closedSyllable) then true
  else if (s.last = .syllable ∨ s.last = .vowel) ∧ (k = .vowel ∨ k = .trailing) then true
  else if (s.last = .closedSyllable ∨ s.last = .trailing) ∧ k = .trailing then true
  else if k = .extend ∨ k = .joiner ∨ k = .spacing then true
  else if s.last = .prepend then true
  else if s.linked ∧ indicConsonant.contains c.toNat then true
  else if s.joined ∧ pictographic.contains c.toNat then true
  else s.oddIndicators ∧ k = .indicator

/-- The characters that continue a cluster, and the rest of the text. -/
def continueCluster (s : ClusterState) : List Char → List Char × List Char
  | [] => ([], [])
  | c :: rest =>
    if s.holds c then
      let (taken, left) := continueCluster (s.step c) rest
      (c :: taken, left)
    else ([], c :: rest)

/-- The first cluster of a text, and the rest of the text. -/
def splitCluster : List Char → List Char × List Char
  | [] => ([], [])
  | c :: rest =>
    let (taken, left) := continueCluster (ClusterState.start.step c) rest
    (c :: taken, left)

end MessageCatalog.Text
