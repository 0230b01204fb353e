/-
Locale tags.

A tag is a language, then optionally a script, a region and variants,
all between hyphens; a full tag may go on with extensions and private
subtags. Letter case does not matter. Some readers of tags accept only
the first part, so there are two readings.
-/
import MessageCatalog.Text.Measure
import MessageCatalog.Text.Split

namespace MessageCatalog

/-- A locale: its language, script and region, in lower, title and upper
case, and the rest of its tag in lower case. -/
structure Locale where
  language : String
  script : Option String
  region : Option String
  rest : List String
deriving DecidableEq, Repr

namespace Locale

/-- A part of a tag between hyphens. -/
abbrev Subtag := List Char

/-- The parts of a tag between hyphens; two hyphens in a row have an empty
part between them. -/
def subtags (tag : List Char) : List Subtag := Text.pieces '-' tag

/-- Whether the character is an unaccented letter. -/
def isLetter (c : Char) : Bool := ('a' ≤ c && c ≤ 'z') || ('A' ≤ c && c ≤ 'Z')

/-- Whether the character is a digit. -/
def isDigit (c : Char) : Bool := '0' ≤ c && c ≤ '9'

/-- Whether the character is a letter or a digit. -/
def isLetterOrDigit (c : Char) : Bool := isLetter c || isDigit c

/-- A language has two or three letters. -/
def isLanguage (s : Subtag) : Bool := 2 ≤ s.length && s.length ≤ 3 && s.all isLetter

/-- A script has four letters. -/
def isScript (s : Subtag) : Bool := s.length == 4 && s.all isLetter

/-- A region has two letters or three digits. -/
def isRegion (s : Subtag) : Bool :=
  (s.length == 2 && s.all isLetter) || (s.length == 3 && s.all isDigit)

/-- A variant has five to eight letters or digits, or four of which the
first is a digit. -/
def isVariant (s : Subtag) : Bool :=
  s.all isLetterOrDigit &&
    ((5 ≤ s.length && s.length ≤ 8) || (s.length == 4 && (s.head?.any isDigit)))

/-- A subtag in lower case. -/
def lowered (s : Subtag) : Subtag := s.map Char.toLower

/-- A subtag in upper case. -/
def raised (s : Subtag) : Subtag := s.map Char.toUpper

/-- A subtag with a capital at its front. -/
def titled : Subtag → Subtag
  | [] => []
  | c :: rest => c.toUpper :: lowered rest

/-- The variants at the front, each different from those before it, and
the subtags behind them; none if a variant is repeated. -/
def variants (seen : List Subtag) : List Subtag → Option (List Subtag)
  | [] => some []
  | s :: rest =>
    if isVariant s then
      let v := lowered s
      if seen.contains v then none else variants (v :: seen) rest
    else some (s :: rest)

/-- The subtag at the front if it is of the given kind, and the subtags
behind it. -/
def takeIf (kind : Subtag → Bool) : List Subtag → Option Subtag × List Subtag
  | [] => (none, [])
  | s :: rest => if kind s then (some s, rest) else (none, s :: rest)

/-- The language, script, region and variants at the front of a tag, and
the subtags behind them. -/
def identifier? : List Subtag → Option (Locale × List Subtag)
  | [] => none
  | language :: rest =>
    if isLanguage language then
      let (script, rest) := takeIf isScript rest
      let (region, rest) := takeIf isRegion rest
      (variants [] rest).map fun left =>
        (⟨String.ofList (lowered language), script.map fun s => String.ofList (titled s),
          region.map fun s => String.ofList (raised s),
          rest.map fun s => String.ofList (lowered s)⟩, left)
    else none

-- ========================================================== extensions

/-- Whether the subtag is made of letters and digits, of a length within
bounds. -/
def isWord (low high : Nat) (s : Subtag) : Bool :=
  low ≤ s.length && s.length ≤ high && s.all isLetterOrDigit

/-- Whether the subtag is the key of a keyword: a letter or digit and a
letter. -/
def isKeywordKey : Subtag → Bool
  | [a, b] => isLetterOrDigit a && isLetter b
  | _ => false

/-- Whether the subtag is the key of a transformation: a letter and a
digit. -/
def isTransformKey : Subtag → Bool
  | [a, b] => isLetter a && isDigit b
  | _ => false

/-- The subtags behind the keywords at the front, each a key and any words
with it, and whether there were any; none if a subtag of two bytes is no
key. -/
def dropKeywords (keyed : Bool) : List Subtag → Option (List Subtag × Bool)
  | [] => some ([], keyed)
  | s :: rest =>
    if Text.byteLength s = 2 then if isKeywordKey s then dropKeywords true rest else none
    else if keyed && isWord 3 8 s then dropKeywords keyed rest
    else some (s :: rest, keyed)

/-- The subtags behind the transformations at the front, each a key and
one word or more with it, and whether there were any; none if a key has
no word. -/
def dropTransforms (keyed wanting : Bool) : List Subtag → Option (List Subtag × Bool)
  | [] => if wanting then none else some ([], keyed)
  | s :: rest =>
    if keyed && isWord 3 8 s then dropTransforms keyed false rest
    else if wanting then none
    else if isTransformKey s then dropTransforms true true rest
    else some (s :: rest, keyed)

/-- What is left behind an extension, if the extension has a body. -/
def leftOf (body left : List Subtag) : Option (List Subtag × Bool) → Option (List Subtag)
  | some (rest, keyed) => if keyed || left.length < body.length then some rest else none
  | none => none

/-- Whether the subtag can stand in an extension without rules of its own.
What it is made of does not matter there. -/
def isFiller (s : Subtag) : Bool := 2 ≤ Text.byteLength s && Text.byteLength s ≤ 8

/-- Drops the body of the extension with the given letter; none if the
body is empty or malformed. -/
def dropExtension (letter : Char) (body : List Subtag) : Option (List Subtag) :=
  if letter = 'u' then
    let left := body.dropWhile (isWord 3 8)
    leftOf body left (dropKeywords false left)
  else if letter = 't' then
    let left :=
      match identifier? body with
      | some (_, r) => r
      | none => body
    leftOf body left (dropTransforms false false left)
  else if letter = 'x' then
    if !body.isEmpty && body.all (isWord 1 8) then some [] else none
  else if (body.takeWhile isFiller).any (isWord 2 8) then some (body.dropWhile isFiller)
  else none

/-- Whether the subtags are extensions, each with a letter or digit of its
own. The first argument bounds their number. -/
def areExtensions : Nat → List Char → List Subtag → Bool
  | _, _, [] => true
  | 0, _, _ => false
  | bound + 1, seen, [letter] :: body =>
    let l := letter.toLower
    isLetterOrDigit letter && !seen.contains l &&
      match dropExtension l body with
      | some rest => areExtensions bound (l :: seen) rest
      | none => false
  | _ + 1, _, _ => false

-- ============================================================ readings

/-- The locale of a tag without extensions and private subtags. -/
def ofIdentifier? (tag : String) : Option Locale :=
  match identifier? (subtags tag.toList) with
  | some (l, []) => some l
  | _ => none

/-- The locale of a full tag. -/
def ofTag? (tag : String) : Option Locale :=
  match identifier? (subtags tag.toList) with
  | some (l, rest) => if areExtensions rest.length [] rest then some l else none
  | none => none

end Locale

end MessageCatalog
