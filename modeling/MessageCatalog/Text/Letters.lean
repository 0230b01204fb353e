/-
Upper and lower case.

Most letters map one by one; some map to several, and some depend on
their neighbours or on the language: the final sigma, the dotted and
dotless i of Turkish and Azerbaijani, the dot that Lithuanian keeps
under accents, the Armenian ligature, and the accents that Greek capital
letters do not carry. A rule sees the characters before the letter,
nearest first, and the characters after it.
-/
import MessageCatalog.Text.Marks
import MessageCatalog.Text.Letters.Table
import MessageCatalog.Text.Letters.GreekTable

namespace MessageCatalog.Text

/-- The languages whose letters follow rules of their own. -/
inductive CaseRules where
  | common
  | turkic
  | lithuanian
  | greek
  | armenian
deriving DecidableEq, Repr

/-- The rules of a language subtag. -/
def CaseRules.ofLanguage (language : String) : CaseRules :=
  if language = "tr" ∨ language = "az" then .turkic
  else if language = "lt" then .lithuanian
  else if language = "el" then .greek
  else if language = "hy" then .armenian
  else .common

-- ================================================== the plain mappings

/-- Whether the run maps the letter. -/
def CaseRun.covers (r : CaseRun) (code : Nat) : Bool :=
  r.first ≤ code && code ≤ r.last && (code - r.first) % r.stride == 0

/-- The mapping of a letter: its sequence, or its partner in the first
run that covers it, or itself. -/
def mapLetter (sequences : List (Nat × List Nat)) (runs : List CaseRun) (c : Char) :
    List Char :=
  match sequences.find? (·.1 == c.toNat) with
  | some (_, codes) => codes.map Char.ofNat
  | none =>
    match runs.find? (·.covers c.toNat) with
    | some r => [Char.ofNat ((c.toNat : Int) + r.shift).toNat]
    | none => [c]

/-- The upper case of a letter without regard to its neighbours. -/
def plainUpper (c : Char) : List Char := mapLetter upperSequences upperRuns c

/-- The lower case of a letter without regard to its neighbours. -/
def plainLower (c : Char) : List Char := mapLetter lowerSequences lowerRuns c

-- ==================================================== the neighbours

/-- Whether the nearest character that counts is a letter with case. -/
def nearCased : List Char → Bool
  | [] => false
  | c :: rest =>
    if caseIgnorable.contains c.toNat then nearCased rest else cased.contains c.toNat

/-- Whether a character with the property comes before any character but
a mark that stands elsewhere than above. -/
def throughMarks (wanted : Char → Bool) : List Char → Bool
  | [] => false
  | c :: rest =>
    if wanted c then true
    else if combining.contains c.toNat && !combiningAbove.contains c.toNat then
      throughMarks wanted rest
    else false

/-- The combining dot above. -/
def dotAbove : Char := Char.ofNat 0x307

-- ======================================================= lower case

/-- The lower case of a letter between its neighbours. -/
def lowerAt (rules : CaseRules) (before : List Char) (c : Char) (after : List Char) :
    List Char :=
  let above := throughMarks (fun d => combiningAbove.contains d.toNat) after
  if rules = .lithuanian ∧ c = 'I' ∧ above then ['i', dotAbove]
  else if rules = .lithuanian ∧ c = 'J' ∧ above then ['j', dotAbove]
  else if rules = .lithuanian ∧ c.toNat = 0x12e ∧ above then [Char.ofNat 0x12f, dotAbove]
  else if rules = .lithuanian ∧ c.toNat = 0xcc then ['i', dotAbove, Char.ofNat 0x300]
  else if rules = .lithuanian ∧ c.toNat = 0xcd then ['i', dotAbove, Char.ofNat 0x301]
  else if rules = .lithuanian ∧ c.toNat = 0x128 then ['i', dotAbove, Char.ofNat 0x303]
  else if rules = .turkic ∧ c.toNat = 0x130 then ['i']
  else if rules = .turkic ∧ c = dotAbove ∧ throughMarks (· == 'I') before then []
  else if rules = .turkic ∧ c = 'I' ∧ !throughMarks (· == dotAbove) after then
    [Char.ofNat 0x131]
  else if c.toNat = 0x3a3 ∧ !nearCased after ∧ nearCased before then [Char.ofNat 0x3c2]
  else plainLower c

-- ==================================================== Greek capitals

/-- The marks that Greek capitals keep, lose or move. -/
structure GreekMarks where
  accented : Bool
  dialytika : Bool
  ypogegrammeni : Bool

/-- The vowel that a letter is, as its bare capital. -/
def greekVowel? (c : Char) : Option Char :=
  let n := c.toNat
  if greekAlpha.contains n then some (Char.ofNat 0x391)
  else if greekEpsilon.contains n then some (Char.ofNat 0x395)
  else if greekEta.contains n then some (Char.ofNat 0x397)
  else if greekIota.contains n then some (Char.ofNat 0x399)
  else if greekOmicron.contains n then some (Char.ofNat 0x39f)
  else if greekUpsilon.contains n then some (Char.ofNat 0x3a5)
  else if greekHookedUpsilon.contains n then some (Char.ofNat 0x3d2)
  else if greekOmega.contains n then some (Char.ofNat 0x3a9)
  else none

/-- The marks that are part of a letter. -/
def greekMarks (c : Char) : GreekMarks :=
  ⟨greekAccented.contains c.toNat, greekDialytika.contains c.toNat,
    greekYpogegrammeni.contains c.toNat⟩

/-- The marks that a combining character adds, if it is a Greek one. -/
def addedMarks? (c : Char) : Option GreekMarks :=
  let n := c.toNat
  if n = 0x300 ∨ n = 0x301 ∨ n = 0x302 ∨ n = 0x303 ∨ n = 0x311 ∨ n = 0x342 then
    some ⟨true, false, false⟩
  else if n = 0x308 then some ⟨false, true, false⟩
  else if n = 0x344 then some ⟨true, true, false⟩
  else if n = 0x345 then some ⟨false, false, true⟩
  else if n = 0x304 ∨ n = 0x306 ∨ n = 0x313 ∨ n = 0x314 ∨ n = 0x343 then
    some ⟨false, false, false⟩
  else none

/-- Both sets of marks together. -/
def GreekMarks.or (a b : GreekMarks) : GreekMarks :=
  ⟨a.accented || b.accented, a.dialytika || b.dialytika, a.ypogegrammeni || b.ypogegrammeni⟩

/-- The marks of the combining characters at the front of a text. -/
def marksAhead : List Char → GreekMarks
  | [] => ⟨false, false, false⟩
  | c :: rest =>
    match addedMarks? c with
    | some m => m.or (marksAhead rest)
    | none => ⟨false, false, false⟩

/-- The nearest character behind any accents, breathings and dialytikas,
with the marks of those. -/
def accentedBehind (marks : GreekMarks) : List Char → Option (Char × GreekMarks)
  | [] => none
  | c :: rest =>
    match addedMarks? c with
    | some m => if m.ypogegrammeni then none else accentedBehind (marks.or m) rest
    | none => some (c, marks)

/-- Whether a vowel that loses its accent stands before a iota or upsilon,
and whether that accent is a character of its own: the second vowel then
needs a dialytika to be read apart. A first vowel with a dialytika does
not count, nor one whose iota below comes between. -/
def accentBehind (before : List Char) : Bool × Bool :=
  match accentedBehind ⟨false, false, false⟩ before with
  | some (c, combined) =>
    let own := greekMarks c
    if (greekVowel? c).isNone || own.dialytika || combined.dialytika then (false, false)
    else if combined.accented then (true, true)
    else (own.accented, false)
  | none => (false, false)

/-- The capital of a Greek vowel. Accents and breathings go, a dialytika
stays or is added, a iota below is written after its letter; a lone eta
keeps its accent because it is then the word for "or". -/
def greekVowelUpper (vowel : Char) (before : List Char) (c : Char) (after : List Char) :
    List Char :=
  let own := greekMarks c
  let all := own.or (marksAhead after)
  let iotaBelow := if own.ypogegrammeni then [Char.ofNat 0x399] else []
  if vowel.toNat = 0x397 then
    if all.accented && !all.ypogegrammeni && !nearCased after && !nearCased before then
      (if own.accented then [Char.ofNat 0x389] else [vowel, Char.ofNat 0x301])
        ++ (if all.dialytika then [Char.ofNat 0x308] else []) ++ iotaBelow
    else vowel :: ((if all.dialytika then [Char.ofNat 0x308] else []) ++ iotaBelow)
  else if vowel.toNat = 0x399 ∨ vowel.toNat = 0x3a5 then
    let (behind, apart) := if all.dialytika then (false, false) else accentBehind before
    if own.dialytika || (behind && !apart) then
      Char.ofNat (if vowel.toNat = 0x399 then 0x3aa else 0x3ab) :: iotaBelow
    else if all.dialytika || behind then vowel :: Char.ofNat 0x308 :: iotaBelow
    else vowel :: iotaBelow
  else vowel :: ((if all.dialytika then [Char.ofNat 0x308] else []) ++ iotaBelow)

/-- Whether a Greek letter stands behind any Greek combining characters. -/
def letterBehind : List Char → Bool
  | [] => false
  | c :: rest =>
    if (addedMarks? c).isSome then letterBehind rest else greekLetter.contains c.toNat

/-- Whether a combining character belongs to a Greek letter, whose capital
has already taken it into account. A iota below has a capital itself. -/
def takenByLetter (before : List Char) (c : Char) : Bool :=
  (addedMarks? c).isSome && c.toNat != 0x345 && letterBehind before

-- ======================================================= upper case

/-- The upper case of a letter between its neighbours. -/
def upperAt (rules : CaseRules) (before : List Char) (c : Char) (after : List Char) :
    List Char :=
  if rules = .turkic ∧ c = 'i' then [Char.ofNat 0x130]
  else if rules = .lithuanian ∧ c = dotAbove ∧
      throughMarks (fun d => softDotted.contains d.toNat) before then []
  else if rules = .armenian ∧ c.toNat = 0x587 then [Char.ofNat 0x535, Char.ofNat 0x54e]
  else if rules = .greek then
    match greekVowel? c with
    | some vowel => greekVowelUpper vowel before c after
    | none =>
      if greekRho.contains c.toNat then [Char.ofNat 0x3a1]
      else if takenByLetter before c then []
      else plainUpper c
  else plainUpper c

-- ===================================================== whole texts

/-- Maps each letter with its neighbours in view. -/
def mapInContext (f : List Char → Char → List Char → List Char) (before : List Char) :
    List Char → List Char
  | [] => []
  | c :: after => f before c after ++ mapInContext f (c :: before) after

/-- A text in upper case. -/
def upper (rules : CaseRules) (s : List Char) : List Char := mapInContext (upperAt rules) [] s

/-- A text in lower case. -/
def lower (rules : CaseRules) (s : List Char) : List Char := mapInContext (lowerAt rules) [] s

end MessageCatalog.Text
