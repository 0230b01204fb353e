/-
Diagnoses point at the fault.

The place of a fault is a line and a column, and so is the location that is
shown for it, but the way from one to the other leads over a byte of the
text: the bytes of all lines before are added up, one byte for the end of
each, then those of the column. The place itself comes from a byte of the
text, the one at which reading stopped (`bytesOn`), so there are two ways
from bytes to places and one way back. They agree on texts whose lines end
in a line feed alone.

# Line ends of two bytes

A carriage return before a line feed belongs to the end of the line and is
not counted, so each of them before the line of the fault moves the byte
back by one (`byteOffset_add_returns`), and the location that is shown is
then another than that of the fault (`malformed_points_at_fault`).
-/
import MessageCatalog.Command.Source
import MessageCatalog.Proofs.Json.Faults

namespace MessageCatalog

open Json Json.Cursor Text

-- ================================================ readers of resources

namespace Resource

variable {text : List Char} {c : Cursor}

theorem located_entries (h : c.In text) (room : Nat) :
    Located text (Left text) (readEntries room c) := by
  have hblank := h.skipBlanks
  unfold readEntries
  dsimp only
  split
  · rename_i ch rest hrest
    split
    · refine (hblank.enter hrest room).bind ?_
      rintro ⟨room', c₁⟩ (h₁ : c₁.In text)
      refine (h₁.eachMember ?_ _ true []).bind ?_
      · intro entries name c₂ h₂
        refine h₂.colon.bind fun c₃ h₃ => ?_
        refine (h₃.document room').bind ?_
        rintro ⟨j, c₄⟩ (h₄ : c₄.In text)
        dsimp only
        split
        · exact h₄
        · exact h₄.faultInObject _
      · rintro ⟨entries, c₂⟩ (h₂ : c₂.In text)
        exact h₂.closeObject.bind fun c₃ h₃ => h₃
    · exact hblank.wrongType _
  · exact hblank.wrongType _

theorem located_member (room : Nat) (d : Draft) (name : String) (c : Cursor) (h : c.In text) :
    Located text (Left text) (readMember room d name c) := by
  unfold readMember
  split
  · split
    · exact h.faultInObject _
    · refine h.colon.bind fun c₁ h₁ => ?_
      refine (h₁.stringValue "a string").bind ?_
      rintro ⟨id, c₂⟩ (h₂ : c₂.In text)
      exact h₂
  · split
    · split
      · exact h.faultInObject _
      · refine h.colon.bind fun c₁ h₁ => ?_
        refine (h₁.stringValue "a string").bind ?_
        rintro ⟨locale, c₂⟩ (h₂ : c₂.In text)
        exact h₂
    · split
      · split
        · exact h.faultInObject _
        · refine h.colon.bind fun c₁ h₁ => ?_
          refine (located_entries h₁ room).bind ?_
          rintro ⟨entries, c₂⟩ (h₂ : c₂.In text)
          exact h₂
      · exact h.skipMember d

theorem located_members (room : Nat) (c : Cursor) (h : c.In text) :
    Located text (Left text) (readMembers room c) := by
  unfold readMembers
  refine (h.eachMember (located_member room) _ true _).bind ?_
  rintro ⟨d, c₁⟩ (h₁ : c₁.In text)
  dsimp only
  split
  · exact h₁.faultInObject _
  · split
    · exact h₁.faultInObject _
    · exact h₁

theorem located_items (room : Nat) (c : Cursor) (h : c.In text) :
    Located text (Left text) (readItems room c) := by
  unfold readItems
  refine (h.nextItem true).bind ?_
  rintro ⟨more, c₁⟩ (h₁ : c₁.In text)
  dsimp only
  split
  · exact h₁.faultInArray _
  · refine (h₁.stringValue "a string").bind ?_
    rintro ⟨id, c₂⟩ (h₂ : c₂.In text)
    refine (h₂.nextItem false).bind ?_
    rintro ⟨more, c₃⟩ (h₃ : c₃.In text)
    dsimp only
    split
    · exact h₃.faultInArray _
    · refine (h₃.stringValue "a string").bind ?_
      rintro ⟨locale, c₄⟩ (h₄ : c₄.In text)
      refine (h₄.nextItem false).bind ?_
      rintro ⟨more, c₅⟩ (h₅ : c₅.In text)
      dsimp only
      split
      · exact h₅
      · refine (located_entries h₅ room).bind ?_
        rintro ⟨entries, c₆⟩ (h₆ : c₆.In text)
        exact h₆

/-- A text that is no resource has a fault at a place in the text. -/
theorem located_ofText (text : String) :
    Located text.toList (fun _ => True) (ofText text) := by
  unfold ofText
  refine (In.record located_members located_items (in_start _) _ _).bind ?_
  rintro ⟨r, c⟩ (h : c.In text.toList)
  exact h.finish r

end Resource

namespace Command

-- ============================================================== places

/-- The byte at which a line starts, by the number of line feeds before
it. -/
def lineStart : (feeds : Nat) → List Char → Nat
  | 0, _ => 0
  | _ + 1, [] => 0
  | feeds + 1, c :: rest =>
    c.utf8Size + (if c = '\n' then lineStart feeds rest else lineStart (feeds + 1) rest)

/-- How many of the first line feeds have a carriage return right before
them. -/
def returns : (feeds : Nat) → List Char → Nat
  | 0, _ => 0
  | _ + 1, [] => 0
  | feeds + 1, c :: rest =>
    if c = '\n' then returns feeds rest
    else (if c = '\r' ∧ rest.head? = some '\n' then 1 else 0) + returns (feeds + 1) rest

theorem lineStart_zero (text : List Char) : lineStart 0 text = 0 := by
  cases text <;> rfl

theorem lines_ne_nil {text : List Char} (h : '\n' ∈ text) : lines text ≠ [] := by
  induction text with
  | nil => cases h
  | cons c rest ih =>
      rw [lines]
      split
      · exact List.cons_ne_nil _ _
      · rename_i hc
        have hrest : '\n' ∈ rest := (List.mem_cons.mp h).resolve_left (Ne.symm hc)
        split
        · exact ih hrest
        · split <;> exact List.cons_ne_nil _ _

/-- Lines with one byte for each of their ends come short of the bytes in
front of a line by the carriage returns in the ends. -/
theorem total_lines_add_returns {feeds : Nat} {text : List Char} (h : feeds ≤ text.count '\n') :
    total (fun l => byteLength l + 1) ((lines text).take feeds) + returns feeds text
      = lineStart feeds text := by
  induction text generalizing feeds with
  | nil =>
      obtain rfl := Nat.le_zero.mp h
      rfl
  | cons c rest ih =>
      cases feeds with
      | zero => rfl
      | succ feeds =>
          rw [lines, returns, lineStart]
          by_cases hfeed : c = '\n'
          · subst hfeed
            rw [List.count_cons_self] at h
            have hsize : '\n'.utf8Size = 1 := rfl
            have hrest := @ih feeds (by omega)
            rw [if_pos rfl, if_pos rfl, if_pos rfl, List.take_succ_cons, total, byteLength_nil,
              hsize]
            omega
          · rw [List.count_cons_of_ne hfeed] at h
            have hrest := ih h
            rw [if_neg hfeed, if_neg hfeed, if_neg hfeed]
            by_cases hreturn : c = '\r' ∧ rest.head? = some '\n'
            · have hsize : c.utf8Size = 1 := by
                rw [hreturn.1]
                rfl
              rw [if_pos hreturn, if_pos hreturn, hsize]
              omega
            · have hne : lines rest ≠ [] :=
                lines_ne_nil (List.count_pos_iff.mp (by omega))
              obtain ⟨l, more, hlines⟩ := List.exists_cons_of_ne_nil hne
              rw [hlines, List.take_succ_cons, total] at hrest
              rw [if_neg hreturn, if_neg hreturn, hlines]
              dsimp only
              rw [List.take_succ_cons, total, byteLength_cons]
              omega

/-- The place of a byte is in a line that the text has, as many bytes behind
the start of that line as the column says. -/
theorem bytesOn_place (line column : Nat) (text : List Char) {n : Nat} (hn : n ≤ byteLength text) :
    ∃ feeds ≤ text.count '\n', (bytesOn ⟨line, column⟩ text n).line = line + feeds ∧
      lineStart feeds text + (bytesOn ⟨line, column⟩ text n).column
        = n + (if feeds = 0 then column else 0) := by
  induction text generalizing line column n with
  | nil =>
      obtain rfl := Nat.le_zero.mp hn
      refine ⟨0, Nat.le_refl 0, rfl, ?_⟩
      rw [lineStart_zero, if_pos rfl]
      rfl
  | cons c rest ih =>
      rw [byteLength_cons] at hn
      unfold bytesOn
      by_cases hzero : n = 0
      · refine ⟨0, Nat.zero_le _, ?_, ?_⟩
        · rw [if_pos hzero]
          rfl
        · rw [if_pos hzero, if_pos rfl, lineStart_zero, hzero]
      · rw [if_neg hzero]
        by_cases hpast : c.utf8Size ≤ n
        · rw [if_pos hpast]
          have hrest : n - c.utf8Size ≤ byteLength rest := by omega
          by_cases hfeed : c = '\n'
          · subst hfeed
            obtain ⟨feeds, hfeeds, hline, hcolumn⟩ := ih (line + 1) 0 hrest
            have hafter : Place.after ⟨line, column⟩ '\n' = ⟨line + 1, 0⟩ := if_pos rfl
            have hsize : '\n'.utf8Size = 1 := rfl
            rw [hafter]
            refine ⟨feeds + 1, by rw [List.count_cons_self]; omega, by rw [hline]; omega, ?_⟩
            rw [lineStart, if_pos rfl, if_neg (Nat.succ_ne_zero feeds)]
            rw [ite_self] at hcolumn
            omega
          · obtain ⟨feeds, hfeeds, hline, hcolumn⟩ := ih line (column + c.utf8Size) hrest
            have hafter : Place.after ⟨line, column⟩ c = ⟨line, column + c.utf8Size⟩ :=
              if_neg hfeed
            rw [hafter]
            refine ⟨feeds, by rw [List.count_cons_of_ne hfeed]; exact hfeeds, hline, ?_⟩
            cases feeds with
            | zero =>
                rw [lineStart_zero, if_pos rfl] at hcolumn ⊢
                omega
            | succ feeds =>
                rw [if_neg (Nat.succ_ne_zero feeds)] at hcolumn ⊢
                rw [lineStart, if_neg hfeed]
                omega
        · rw [if_neg hpast]
          refine ⟨0, Nat.zero_le _, rfl, ?_⟩
          rw [lineStart_zero, if_pos rfl, Nat.zero_add, Nat.add_comm]

/-- The line and the column of a byte, counted from one, are those of its
place. -/
theorem lineAndColumn_eq (line column : Nat) (text : List Char) {n : Nat}
    (hn : n ≤ byteLength text) :
    lineAndColumn line (column + 1) n text
      = ((bytesOn ⟨line, column⟩ text n).line, (bytesOn ⟨line, column⟩ text n).column + 1) := by
  induction text generalizing line column n with
  | nil =>
      obtain rfl := Nat.le_zero.mp hn
      rfl
  | cons c rest ih =>
      rw [byteLength_cons] at hn
      cases n with
      | zero => rfl
      | succ n =>
          rw [lineAndColumn.eq_3 _ _ _ _ _ (Nat.succ_ne_zero n), bytesOn,
            if_neg (Nat.succ_ne_zero n)]
          by_cases hpast : c.utf8Size ≤ n + 1
          · have hrest : n + 1 - c.utf8Size ≤ byteLength rest := by omega
            rw [if_neg (by omega), if_pos hpast]
            by_cases hfeed : c = '\n'
            · have hafter : Place.after ⟨line, column⟩ c = ⟨line + 1, 0⟩ := if_pos hfeed
              rw [if_pos hfeed, hafter]
              exact ih (line + 1) 0 hrest
            · have hafter : Place.after ⟨line, column⟩ c = ⟨line, column + c.utf8Size⟩ :=
                if_neg hfeed
              rw [if_neg hfeed, hafter, Nat.add_right_comm]
              exact ih line (column + c.utf8Size) hrest
          · rw [if_pos (by omega), if_neg hpast, Nat.add_right_comm]

/-- The bytes of one character are in one line. -/
theorem bytesOn_lt (place : Place) (c : Char) (rest : List Char) {n : Nat} (hn : n < c.utf8Size) :
    bytesOn place (c :: rest) n = ⟨place.line, place.column + n⟩ := by
  unfold bytesOn
  by_cases hzero : n = 0
  · rw [if_pos hzero, hzero]
    rfl
  · rw [if_neg hzero, if_neg (by omega)]

/-- Before a byte that is not the first of its line there is one with the
column before. -/
theorem bytesOn_pred (place : Place) (text : List Char) {n : Nat} (hn : n + 1 ≤ byteLength text)
    {l k : Nat} (h : bytesOn place text (n + 1) = ⟨l, k + 1⟩) : bytesOn place text n = ⟨l, k⟩ := by
  induction text generalizing place n with
  | nil => cases hn
  | cons c rest ih =>
      rw [byteLength_cons] at hn
      have hpos := c.utf8Size_pos
      unfold bytesOn at h
      rw [if_neg (Nat.succ_ne_zero n)] at h
      split at h
      · by_cases hlast : c.utf8Size = n + 1
        · -- the last byte of the character
          rw [hlast, Nat.sub_self, bytesOn_zero] at h
          by_cases hfeed : c = '\n'
          · rw [Place.after, if_pos hfeed] at h
            cases h
          · rw [Place.after, if_neg hfeed, hlast] at h
            rw [bytesOn_lt place c rest (by omega)]
            cases h
            rfl
        · have hsub : n + 1 - c.utf8Size = n - c.utf8Size + 1 := by omega
          rw [hsub] at h
          rw [bytesOn, if_neg (by omega), if_pos (by omega)]
          exact ih (place.after c) (by omega) h
      · rw [bytesOn_lt place c rest (by omega)]
        cases h
        rfl

-- ============================================================ locations

variable {text : List Char} {p : Place}

/-- The place of a fault is a byte of the text. -/
theorem lineStart_add_column (h : InText text p) :
    1 ≤ p.line ∧ p.line - 1 ≤ text.count '\n' ∧
      p = bytesOn .start text (lineStart (p.line - 1) text + p.column) ∧
      lineStart (p.line - 1) text + p.column ≤ byteLength text := by
  obtain ⟨n, hn, rfl⟩ := h
  obtain ⟨feeds, hfeeds, hline, hcolumn⟩ := bytesOn_place 1 0 text hn
  have hplace : bytesOn ⟨1, 0⟩ text n = bytesOn .start text n := rfl
  rw [hplace] at hline hcolumn
  rw [ite_self] at hcolumn
  have hfeeds' : (bytesOn .start text n).line - 1 = feeds := by omega
  rw [hfeeds', hcolumn]
  exact ⟨by omega, hfeeds, rfl, hn⟩

/-- The byte that is found for a place comes short of the byte that is meant
by the carriage returns in the line ends before it. -/
theorem byteOffset_add_returns (h : InText text p) :
    byteOffset text p.line p.column + returns (p.line - 1) text
      = lineStart (p.line - 1) text + (p.column - 1) := by
  obtain ⟨-, hfeeds, -, hle⟩ := lineStart_add_column h
  have htotal := total_lines_add_returns hfeeds
  unfold byteOffset
  dsimp only
  omega

/-- The byte that is meant by a place has the line of the place and, if the
place is not at the start of a line, its column. -/
theorem lineAndColumn_of_place (h : InText text p) :
    lineAndColumn 1 1 (lineStart (p.line - 1) text + (p.column - 1)) text
      = (p.line, max p.column 1) := by
  obtain ⟨-, -, hplace, hle⟩ := lineStart_add_column h
  rw [lineAndColumn_eq 1 0 text (by omega)]
  show ((bytesOn .start text _).line, (bytesOn .start text _).column + 1) = _
  cases hcolumn : p.column with
  | zero =>
      rw [hcolumn] at hplace
      have hzero : lineStart (p.line - 1) text + (0 - 1) = lineStart (p.line - 1) text + 0 := rfl
      rw [hzero, ← hplace, hcolumn]
      rfl
  | succ k =>
      rw [hcolumn] at hplace hle
      have hpred := bytesOn_pred .start text (n := lineStart (p.line - 1) text + k) hle
        (l := p.line) (k := k) (by rw [Nat.add_assoc, ← hplace, ← hcolumn])
      rw [Nat.add_sub_cancel, hpred, Nat.max_eq_left (by omega)]

/-- Bytes in the text have different lines and columns. -/
theorem lineAndColumn_inj {m n : Nat} (hm : m ≤ byteLength text) (hn : n ≤ byteLength text)
    (h : lineAndColumn 1 1 m text = lineAndColumn 1 1 n text) : m = n := by
  rw [lineAndColumn_eq 1 0 text hm, lineAndColumn_eq 1 0 text hn, Prod.mk.injEq] at h
  obtain ⟨f, -, hline, hcolumn⟩ := bytesOn_place 1 0 text hm
  obtain ⟨f', -, hline', hcolumn'⟩ := bytesOn_place 1 0 text hn
  have hfeeds : f = f' := by omega
  rw [ite_self] at hcolumn hcolumn'
  rw [← hfeeds] at hcolumn'
  omega

theorem returns_of_not_mem (feeds : Nat) (h : '\r' ∉ text) : returns feeds text = 0 := by
  induction text generalizing feeds with
  | nil => cases feeds <;> rfl
  | cons c rest ih =>
      obtain ⟨hc, hrest⟩ := not_or.mp fun hor => h (List.mem_cons.mpr hor)
      cases feeds with
      | zero => rfl
      | succ feeds =>
          rw [returns]
          split
          · exact ih _ hrest
          · rw [if_neg fun hreturn => hc hreturn.1.symm, ih _ hrest]

theorem place_of_ofText {text : String} {fault : Fault} (h : Resource.ofText text = .error fault) :
    InText text.toList ⟨fault.line, fault.column⟩ ∧
      fault.place = some ⟨fault.line, fault.column⟩ := by
  have hlocated := Resource.located_ofText text
  rw [h] at hlocated
  obtain ⟨p, hplace, hp⟩ := hlocated
  unfold Fault.line Fault.column
  rw [hplace]
  exact ⟨hp, rfl⟩

theorem malformed_of_resource {files : Files} {path : String} {location : Location} {fault : Fault}
    (h : files.resource path = .error (.malformed location fault)) : ∃ text, files path = .ok text ∧
      Resource.ofText text = .error fault ∧ location = .ofFault path text fault := by
  unfold Files.resource at h
  split at h
  · cases h
  · rename_i text hfile
    split at h
    · cases h
    · rename_i fault' hfault
      cases h
      exact ⟨text, hfile, hfault, rfl⟩

/-- A file that holds no resource is diagnosed with a fault at a place in its
text, and the byte that is shown for it is short of the byte meant by the
line and the column of the fault by one for each carriage return in the line
ends before it. So the byte is the one that is meant, and the location that
is shown has the line and the column of the fault (or the first column, if
the fault is before it), both exactly if there are none of these. -/
theorem malformed_points_at_fault {files : Files} {path : String} {location : Location}
    {fault : Fault} (h : files.resource path = .error (.malformed location fault)) :
    ∃ text, files path = .ok text ∧ Resource.ofText text = .error fault ∧
      fault.place = some ⟨fault.line, fault.column⟩ ∧
      lineStart (fault.line - 1) text.toList + fault.column ≤ byteLength text.toList ∧
      byteOffset text.toList fault.line fault.column + returns (fault.line - 1) text.toList
        = min (lineStart (fault.line - 1) text.toList + (fault.column - 1))
            (byteLength text.toList) ∧
      (location = ⟨path, fault.line, max fault.column 1⟩ ↔
        byteOffset text.toList fault.line fault.column
          = min (lineStart (fault.line - 1) text.toList + (fault.column - 1))
              (byteLength text.toList)) ∧
      ('\r' ∉ text.toList → location = ⟨path, fault.line, max fault.column 1⟩) := by
  obtain ⟨text, hfile, hfault, rfl⟩ := malformed_of_resource h
  obtain ⟨hin, hplace⟩ := place_of_ofText hfault
  obtain ⟨-, -, -, hle⟩ := lineStart_add_column hin
  have hmeant := lineAndColumn_of_place hin
  have hoffset := byteOffset_add_returns hin
  dsimp only at hle hmeant hoffset
  have hmin : min (lineStart (fault.line - 1) text.toList + (fault.column - 1))
      (byteLength text.toList) = lineStart (fault.line - 1) text.toList + (fault.column - 1) :=
    Nat.min_eq_left (by omega)
  have hlocation : Location.ofFault path text fault = ⟨path, fault.line, max fault.column 1⟩ ↔
      byteOffset text.toList fault.line fault.column
        = lineStart (fault.line - 1) text.toList + (fault.column - 1) := by
    constructor
    · intro heq
      refine @lineAndColumn_inj text.toList _ _ (by omega) (by omega) ?_
      rw [hmeant, Prod.ext_iff]
      exact ⟨congrArg Location.line heq, congrArg Location.column heq⟩
    · intro heq
      unfold Location.ofFault
      dsimp only
      rw [heq, hmeant]
  refine ⟨text, hfile, hfault, hplace, hle, hoffset.trans hmin.symm, ?_, fun hreturn => ?_⟩
  · rw [hmin]
    exact hlocation
  · rw [returns_of_not_mem _ hreturn] at hoffset
    exact hlocation.mpr hoffset

/-- Behind two line feeds the location is in the line of the fault. -/
theorem malformed_points_at_fault_feeds :
    Files.resource (fun _ => .ok "\n\nx") "en.json"
        = .error (.malformed ⟨"en.json", 3, 1⟩ ⟨.expectedValue, some ⟨3, 1⟩⟩) ∧
      byteOffset "\n\nx".toList 3 1
        = min (lineStart 2 "\n\nx".toList + 0) (byteLength "\n\nx".toList) := by
  have hdiagnosis : Files.resource (fun _ => .ok "\n\nx") "en.json"
      = .error (.malformed ⟨"en.json", 3, 1⟩ ⟨.expectedValue, some ⟨3, 1⟩⟩) := rfl
  obtain ⟨text, hfile, -, -, -, -, hlocation, -⟩ := malformed_points_at_fault hdiagnosis
  cases hfile
  exact ⟨hdiagnosis, hlocation.mp rfl⟩

/-- Behind two carriage returns the location is in the line before that of
the fault. -/
theorem returns_move_location :
    Resource.ofText "\r\n\r\nx" = .error ⟨.expectedValue, some ⟨3, 1⟩⟩ ∧
      byteOffset "\r\n\r\nx".toList 3 1 = 2 ∧ lineStart 2 "\r\n\r\nx".toList = 4 ∧
      Files.resource (fun _ => .ok "\r\n\r\nx") "en.json"
        = .error (.malformed ⟨"en.json", 2, 1⟩ ⟨.expectedValue, some ⟨3, 1⟩⟩) :=
  ⟨rfl, rfl, rfl, rfl⟩

end Command

end MessageCatalog
