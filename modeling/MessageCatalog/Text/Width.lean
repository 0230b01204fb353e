/-
How many columns a text takes in a terminal.

Most characters take a column, two or none each. Some take less beside
others: a carriage return before a line feed, the parts of a pictograph,
letters written as one. Such a character is told by what follows it, so a
text is measured from its end.
-/
import MessageCatalog.Text.Marks
import MessageCatalog.Text.Width.Table

namespace MessageCatalog.Text

-- ============================================== characters by themselves

/-- The columns of a character by itself: none for marks and invisible
characters, two for wide characters, one for all else. Two Khmer signs
stand for several letters, and the Tifinagh joiner is seen unless it has
letters to join. -/
def charWidth (c : Char) : Nat :=
  let n := c.toNat
  if n ≤ 0xa0 || n = 0x2d7f then 1
  else if n = 0x17a4 then 2
  else if n = 0x17d8 then 3
  else if isMark c || invisible.contains n then 0
  else if wide.contains n then 2
  else 1

-- ==================================================== what lies ahead

/-- What follows a place in a text, as far as it bears on the width of
the character there. -/
inductive Ahead where
  /-- Nothing that bears on it. -/
  | plain
  | lineFeed
  /-- A pictograph. -/
  | picture
  /-- A skin tone. -/
  | tone
  /-- One regional indicator. -/
  | indicator
  /-- Several regional indicators. -/
  | indicators
  /-- A joiner and a pictograph. -/
  | joinedPicture
  /-- The frame of a key before them. -/
  | joinedKey
  /-- One regional indicator before them. -/
  | joinedIndicator
  /-- Several before them, in pairs or with one left. -/
  | joinedIndicators (paired : Bool)
  /-- The end of a tagged flag before them, with so many letters and
  digits of its tag. -/
  | joinedTag (letters digits : Nat)
  | alef
  | lamed (joined : Bool)
  | bugineseYa (joined : Bool)
  /-- A Buginese vowel sign before a joined ya. -/
  | bugineseSign
  | tifinagh (joined : Bool)
  /-- The Tifinagh joiner before a consonant. -/
  | tifinaghJoiner
  | lisuTone
  | orkhonI (joined : Bool)
  | coeng
  /-- The Kirat Rai vowel sign e, and the one for ai. -/
  | kiratE
  | kiratAi
deriving DecidableEq, Repr

/-- What a variation selector asks of the character before it. -/
inductive Selector where
  | picture
  | text
  | fullWidth
deriving DecidableEq, Repr

/-- What a character sees: what lies ahead, and the selector between. -/
structure View where
  ahead : Ahead
  selector : Option Selector

/-- Whether a letter lies ahead that marks and joiners do not part from
the letter it is written with. -/
def Ahead.isLetter : Ahead → Bool
  | .lamed _ | .bugineseYa _ | .bugineseSign | .tifinagh _ | .tifinaghJoiner | .lisuTone
  | .orkhonI _ | .coeng => true
  | _ => false

/-- What lies ahead when a joiner comes before it. -/
def Ahead.join : Ahead → Ahead
  | .lamed _ => .lamed true
  | .bugineseYa _ => .bugineseYa true
  | .tifinagh _ => .tifinagh true
  | .orkhonI _ => .orkhonI true
  | a => a

/-- What a character sees through a selector. A selector parts what would
be joined, but for letters, and but for the pictographs that the base of
a selected one may join. -/
def View.select (v : View) (s : Selector) : View :=
  match v.ahead with
  | .joinedPicture | .joinedKey => ⟨if s = .picture then v.ahead else .plain, some s⟩
  | a => ⟨if a.isLetter || a = .alef then a else .plain, some s⟩

/-- What a character sees that its selector does not suit. -/
def View.unselect (v : View) : View :=
  if v.selector.isSome && !(v.ahead.isLetter || v.ahead = .alef) then ⟨.plain, none⟩
  else ⟨v.ahead, none⟩

-- ======================================================== joined writing

/-- Whether a character is a regional indicator. -/
def isIndicator (n : Nat) : Bool := 0x1f1e6 ≤ n && n ≤ 0x1f1ff

/-- Whether a character is a skin tone. -/
def isTone (n : Nat) : Bool := 0x1f3fb ≤ n && n ≤ 0x1f3ff

/-- Whether a character is a consonant of Tifinagh. -/
def isTifinagh (n : Nat) : Bool := (0x2d31 ≤ n && n ≤ 0x2d65) || n = 0x2d6f

/-- Whether a character is a letter of a tag. -/
def isTagLetter (n : Nat) : Bool := 0xe0061 ≤ n && n ≤ 0xe007a

/-- Whether a character is a digit of a tag. -/
def isTagDigit (n : Nat) : Bool := 0xe0030 ≤ n && n ≤ 0xe0039

/-- The columns that a character adds to the letter ahead, if both are
written as one. -/
def letterWidth? (n : Nat) : Ahead → Option (Int × Ahead)
  | .alef =>
    if arabicLam.contains n then some (0, .plain)
    else if arabicTransparent.contains n then some (0, .alef)
    else none
  | .lamed true => if n = 0x5d0 then some (0, .plain) else none
  | .coeng => if n = 0x17d2 then some (-1, .plain) else none
  | .bugineseYa true => if n = 0x1a17 then some (0, .bugineseSign) else none
  | .bugineseSign => if n = 0x1a15 then some (0, .plain) else none
  | .tifinagh joined =>
    if n = 0x2d7f then some (1, .tifinaghJoiner)
    else if joined && isTifinagh n then some (0, .plain)
    else none
  | .tifinaghJoiner => if isTifinagh n then some (-1, .plain) else none
  | .lisuTone => if 0xa4f8 ≤ n && n ≤ 0xa4fb then some (0, .plain) else none
  | .orkhonI true => if n = 0x10c32 then some (0, .plain) else none
  | .kiratE =>
    if n = 0x16d63 || n = 0x16d69 then some (0, .plain)
    else if n = 0x16d67 then some (0, .kiratAi)
    else if n = 0x16d68 then some (1, .kiratE)
    else none
  | .kiratAi => if n = 0x16d63 then some (0, .plain) else none
  | _ => none

/-- The columns that a character adds to the pictograph ahead, if it is a
part of it. Flags before a joined pictograph pair up from the first
indicator, which is the last to be seen. -/
def pictureWidth? (n : Nat) : Ahead → Option (Int × Ahead)
  | .picture => if n = 0x200d then some (0, .joinedPicture) else none
  | .tone =>
    if toneBase.contains n then some (0, .picture)
    else if n = 0x200d then some (0, .joinedPicture)
    else none
  | .indicator => if isIndicator n then some (1, .indicators) else none
  | .indicators =>
    if isIndicator n then some (1, .indicators)
    else if n = 0x200d then some (0, .joinedPicture)
    else none
  | .joinedPicture =>
    if n = 0x20e3 then some (0, .joinedKey)
    else if isIndicator n then some (1, .joinedIndicator)
    else if isTone n then some (0, .tone)
    else if n = 0xe007f then some (0, .joinedTag 0 0)
    else if presented.contains n then some (0, .picture)
    else none
  | .joinedIndicator => if isIndicator n then some (-1, .joinedIndicators true) else none
  | .joinedIndicators paired =>
    if isIndicator n then some (if paired then 3 else -1, .joinedIndicators !paired)
    else if n = 0x200d then some (0, .joinedPicture)
    else none
  | .joinedTag letters digits =>
    if isTagLetter n && digits = 0 && letters < 6 then some (0, .joinedTag (letters + 1) 0)
    else if isTagDigit n && (digits = 1 || digits = 2 || (digits = 0 && letters < 5)) then
      some (0, .joinedTag letters (digits + 1))
    else if n = 0x1f3f4 && (digits = 3 || (digits = 0 && 3 ≤ letters)) then some (0, .picture)
    else none
  | _ => none

-- ======================================================== whole texts

/-- What a character is to the one before it. -/
def aheadOf (n : Nat) : Ahead :=
  if n = 10 then .lineFeed
  else if n ≤ 0xa0 then .plain
  else if isTone n then .tone
  else if isIndicator n then .indicator
  else if presented.contains n then .picture
  else if arabicAlef.contains n then .alef
  else if n = 0x5dc then .lamed false
  else if n = 0x1a10 then .bugineseYa false
  else if isTifinagh n then .tifinagh false
  else if n = 0xa4fc || n = 0xa4fd then .lisuTone
  else if n = 0x10c03 then .orkhonI false
  else if coengLetter.contains n then .coeng
  else if n = 0x16d67 then .kiratE
  else if n = 0x16d68 then .kiratAi
  else .plain

/-- The width that a selector gives to a character, if it suits it. -/
def selectedWidth? (n : Nat) (v : View) : Option (Int × Ahead) :=
  match v.selector with
  | some .picture =>
    if selectable.contains n then
      some (if v.ahead = .joinedPicture ∨ v.ahead = .joinedKey then 0 else 2, .picture)
    else none
  | some .text => if textSelectable.contains n then some (1, .plain) else none
  | some .fullWidth =>
    if n = 0x2018 || n = 0x2019 || n = 0x201c || n = 0x201d then some (2, .plain) else none
  | none => none

/-- The selector that a character is. -/
def selectorOf? (n : Nat) : Option Selector :=
  if n = 0xfe0f then some .picture
  else if n = 0xfe0e then some .text
  else if n = 0xfe01 then some .fullWidth
  else none

/-- The columns that a character adds to the text after it, and what the
two are to a character before them. -/
def addedWidth (c : Char) (v : View) : Int × View :=
  let n := c.toNat
  match selectedWidth? n v with
  | some (w, a) => (w, ⟨a, none⟩)
  | none =>
    match selectorOf? n with
    | some s => (0, v.unselect.select s)
    | none =>
      let a := v.unselect.ahead
      if n = 13 ∧ a = .lineFeed then (0, ⟨.plain, none⟩)
      else if a.isLetter ∧ n = 0x200d then (0, ⟨a.join, none⟩)
      else if a.isLetter ∧ joinTransparent.contains n then (0, ⟨a, none⟩)
      else
        match letterWidth? n a <|> pictureWidth? n a with
        | some (w, next) => (w, ⟨next, none⟩)
        | none => (charWidth c, ⟨aheadOf n, none⟩)

/-- The columns of a text, and what it is to a character before it. -/
def measure : List Char → Int × View
  | [] => (0, ⟨.plain, none⟩)
  | c :: rest =>
    let (columns, view) := measure rest
    let (added, next) := addedWidth c view
    (columns + added, next)

/-- The columns that a text takes. -/
def width (s : String) : Nat := (measure s.toList).1.toNat

end MessageCatalog.Text
