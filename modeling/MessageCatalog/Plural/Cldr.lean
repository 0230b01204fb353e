/-
The plural rules of CLDR.

Languages with the same rules stand together in a family. A rule on the
number itself holds of whole numbers only; a rule on its whole part holds
of every number with that part. What no rule covers is `other`, and so is
every number in a language without a family.
-/
import MessageCatalog.Plural.Rules

namespace MessageCatalog.Plural

-- =============================================================== tests

/-- Whether the number lies within bounds. -/
def within (low high n : Nat) : Bool := low ≤ n && n ≤ high

/-- Whether the number ends in a digit, with no one in front of it: in one
but not in eleven, in two but not in twelve. -/
def endsIn (digit n : Nat) : Bool := n % 10 == digit && n % 100 != 10 + digit

/-- Whether the number ends in two to four, but not in twelve to
fourteen. -/
def endsInFew (n : Nat) : Bool := within 2 4 (n % 10) && !within 12 14 (n % 100)

/-- Whether the number ends in one of the digits, with no one, seven or
nine in front of it. -/
def endsInBreton (digits : List Nat) (n : Nat) : Bool :=
  digits.contains (n % 10) && !([1, 7, 9].contains (n % 100 / 10))

/-- Whether the number ends in whole thousands up to twenty, or in forty,
sixty or eighty of them. -/
def endsInRoundThousands (n : Nat) : Bool :=
  n % 1000 == 0 &&
    (within 1000 20000 (n % 100000) || [40000, 60000, 80000].contains (n % 100000))

namespace Operands

variable (o : Operands)

/-- Whether the number is whole and its whole part has the property. -/
def is (p : Nat → Bool) : Bool := o.stripped == 0 && p o.whole

/-- Whether the number is one of those listed. -/
def isAny (ns : List Nat) : Bool := o.is ns.contains

/-- Whether the number is written without fraction digits. -/
def plain : Bool := o.places == 0

/-- Whether the number is one and written without fraction digits. -/
def plainOne : Bool := o.whole == 1 && o.plain

/-- Whether the number is a whole count of millions, but not zero. -/
def millions : Bool := o.whole != 0 && o.whole % 1000000 == 0 && o.plain

end Operands

-- ============================================================ families

/-- One if the test holds, and other if not. -/
def oneIf (test : Bool) : Category := if test then .one else .other

/-- The first category whose test holds. -/
def firstOf : List (Category × Bool) → Category
  | [] => .other
  | (c, test) :: rest => if test then c else firstOf rest

/-- Languages that have their rules in common. -/
structure Family where
  languages : List String
  rules : Rules

/-- The rules of a language are those of its family. -/
def rulesIn (families : List Family) (language : String) : Rules :=
  match families.find? (·.languages.contains language) with
  | some f => f.rules
  | none => fun _ => .other

/-- Rules for counting. -/
def cardinal : List Family := [
  ⟨["ast", "de", "en", "et", "fi", "fy", "gl", "ia", "ie", "io", "ji", "lij", "nl", "sc", "sv",
      "sw", "ur", "yi"],
    fun o => oneIf o.plainOne⟩,
  ⟨["af", "an", "asa", "az", "bal", "bem", "bez", "bg", "brx", "ce", "cgg", "chr", "ckb", "dv",
      "ee", "el", "eo", "eu", "fo", "fur", "gsw", "ha", "haw", "hu", "jgo", "jmc", "ka", "kaj",
      "kcg", "kk", "kkj", "kl", "ks", "ksb", "ku", "ky", "lb", "lg", "mas", "mgo", "ml", "mn",
      "mr", "nah", "nb", "nd", "ne", "nn", "nnh", "no", "nr", "ny", "nyn", "om", "or", "os",
      "pap", "ps", "rm", "rof", "rwk", "saq", "sd", "sdh", "seh", "sn", "so", "sq", "ss", "ssy",
      "st", "syr", "ta", "te", "teo", "tig", "tk", "tn", "tr", "ts", "ug", "uz", "ve", "vo",
      "vun", "wae", "xh", "xog"],
    fun o => oneIf (o.isAny [1])⟩,
  ⟨["ak", "bho", "csw", "guw", "ln", "mg", "nso", "pa", "ti", "wa"],
    fun o => oneIf (o.isAny [0, 1])⟩,
  ⟨["am", "as", "bn", "doi", "fa", "gu", "hi", "kn", "kok", "pcm", "zu"],
    fun o => oneIf (o.whole == 0 || o.isAny [1])⟩,
  ⟨["ff", "hy", "kab"], fun o => oneIf (o.whole ≤ 1)⟩,
  ⟨["tzm"], fun o => oneIf (o.is fun n => n ≤ 1 || within 11 99 n)⟩,
  ⟨["si"], fun o => oneIf (o.isAny [0, 1] || (o.whole == 0 && o.fraction == 1))⟩,
  ⟨["da"], fun o => oneIf (o.isAny [1] || (o.stripped != 0 && o.whole ≤ 1))⟩,
  ⟨["is"], fun o => oneIf ((o.stripped == 0 && endsIn 1 o.whole) || endsIn 1 o.stripped)⟩,
  ⟨["mk"], fun o => oneIf ((o.plain && endsIn 1 o.whole) || endsIn 1 o.fraction)⟩,
  ⟨["ceb", "fil", "tl"], fun o =>
    oneIf !([4, 6, 9].contains ((if o.plain then o.whole else o.fraction) % 10))⟩,
  ⟨["fr", "pt"], fun o => firstOf [(.one, o.whole ≤ 1), (.many, o.millions)]⟩,
  ⟨["ca", "it", "lld", "pt-PT", "scn", "vec"], fun o =>
    firstOf [(.one, o.plainOne), (.many, o.millions)]⟩,
  ⟨["es"], fun o => firstOf [(.one, o.isAny [1]), (.many, o.millions)]⟩,
  ⟨["lag"], fun o => firstOf [(.zero, o.isAny [0]), (.one, o.whole ≤ 1)]⟩,
  ⟨["blo", "cv", "ksh"], fun o => firstOf [(.zero, o.isAny [0]), (.one, o.isAny [1])]⟩,
  ⟨["lv", "prg"], fun o =>
    firstOf [
      (.zero, (o.is fun n => n % 10 == 0 || within 11 19 (n % 100))
        || (o.places == 2 && within 11 19 (o.fraction % 100))),
      (.one, o.is (endsIn 1) || (o.places == 2 && endsIn 1 o.fraction)
        || (o.places != 2 && o.fraction % 10 == 1))]⟩,
  ⟨["iu", "naq", "sat", "se", "sma", "smi", "smj", "smn", "sms"], fun o =>
    firstOf [(.one, o.isAny [1]), (.two, o.isAny [2])]⟩,
  ⟨["he", "iw"], fun o =>
    firstOf [
      (.one, o.plainOne || (o.whole == 0 && !o.plain)), (.two, o.whole == 2 && o.plain)]⟩,
  ⟨["shi"], fun o =>
    firstOf [(.one, o.whole == 0 || o.isAny [1]), (.few, o.is (within 2 10))]⟩,
  ⟨["mo", "ro"], fun o =>
    firstOf [
      (.one, o.plainOne),
      (.few, !o.plain || o.is fun n => n == 0 || (n != 1 && within 1 19 (n % 100)))]⟩,
  ⟨["bs", "hr", "sh", "sr"], fun o =>
    firstOf [
      (.one, (o.plain && endsIn 1 o.whole) || endsIn 1 o.fraction),
      (.few, (o.plain && endsInFew o.whole) || endsInFew o.fraction)]⟩,
  ⟨["sl"], fun o =>
    firstOf [
      (.one, o.plain && o.whole % 100 == 1), (.two, o.plain && o.whole % 100 == 2),
      (.few, !o.plain || within 3 4 (o.whole % 100))]⟩,
  ⟨["dsb", "hsb"], fun o =>
    firstOf [
      (.one, (o.plain && o.whole % 100 == 1) || o.fraction % 100 == 1),
      (.two, (o.plain && o.whole % 100 == 2) || o.fraction % 100 == 2),
      (.few, (o.plain && within 3 4 (o.whole % 100)) || within 3 4 (o.fraction % 100))]⟩,
  ⟨["gd"], fun o =>
    firstOf [
      (.one, o.isAny [1, 11]), (.two, o.isAny [2, 12]),
      (.few, o.is fun n => within 3 10 n || within 13 19 n)]⟩,
  ⟨["cs", "sk"], fun o =>
    firstOf [(.one, o.plainOne), (.few, o.plain && within 2 4 o.whole), (.many, !o.plain)]⟩,
  ⟨["pl"], fun o =>
    firstOf [(.one, o.plainOne), (.few, o.plain && endsInFew o.whole), (.many, o.plain)]⟩,
  ⟨["ru", "uk"], fun o =>
    firstOf [
      (.one, o.plain && endsIn 1 o.whole), (.few, o.plain && endsInFew o.whole),
      (.many, o.plain)]⟩,
  ⟨["be"], fun o =>
    firstOf [(.one, o.is (endsIn 1)), (.few, o.is endsInFew), (.many, o.is fun _ => true)]⟩,
  ⟨["lt"], fun o =>
    firstOf [
      (.one, o.is fun n => n % 10 == 1 && !within 11 19 (n % 100)),
      (.few, o.is fun n => within 2 9 (n % 10) && !within 11 19 (n % 100)),
      (.many, o.fraction != 0)]⟩,
  ⟨["sgs"], fun o =>
    firstOf [
      (.one, o.is (endsIn 1)), (.two, o.isAny [2]),
      (.few, o.is fun n => within 2 9 (n % 10) && !within 11 19 (n % 100)),
      (.many, o.fraction != 0)]⟩,
  ⟨["br"], fun o =>
    firstOf [
      (.one, o.is (endsInBreton [1])), (.two, o.is (endsInBreton [2])),
      (.few, o.is (endsInBreton [3, 4, 9])),
      (.many, o.is fun n => n != 0 && n % 1000000 == 0)]⟩,
  ⟨["ga"], fun o =>
    firstOf [
      (.one, o.isAny [1]), (.two, o.isAny [2]), (.few, o.is (within 3 6)),
      (.many, o.is (within 7 10))]⟩,
  ⟨["gv"], fun o =>
    firstOf [
      (.one, o.plain && o.whole % 10 == 1), (.two, o.plain && o.whole % 10 == 2),
      (.few, o.plain && o.whole % 20 == 0), (.many, !o.plain)]⟩,
  ⟨["mt"], fun o =>
    firstOf [
      (.one, o.isAny [1]), (.two, o.isAny [2]),
      (.few, o.is fun n => n == 0 || within 3 10 (n % 100)),
      (.many, o.is fun n => within 11 19 (n % 100))]⟩,
  ⟨["kw"], fun o =>
    firstOf [
      (.zero, o.isAny [0]), (.one, o.isAny [1]),
      (.two, o.is fun n => n % 20 == 2 || endsInRoundThousands n || n % 1000000 == 100000),
      (.few, o.is fun n => n % 20 == 3), (.many, o.is fun n => n % 20 == 1)]⟩,
  ⟨["ar", "ars"], fun o =>
    firstOf [
      (.zero, o.isAny [0]), (.one, o.isAny [1]), (.two, o.isAny [2]),
      (.few, o.is fun n => within 3 10 (n % 100)),
      (.many, o.is fun n => within 11 99 (n % 100))]⟩,
  ⟨["cy"], fun o =>
    firstOf [
      (.zero, o.isAny [0]), (.one, o.isAny [1]), (.two, o.isAny [2]), (.few, o.isAny [3]),
      (.many, o.isAny [6])]⟩]

/-- Rules for ranking. -/
def ordinal : List Family := [
  ⟨["en"], fun o =>
    firstOf [(.one, o.is (endsIn 1)), (.two, o.is (endsIn 2)), (.few, o.is (endsIn 3))]⟩,
  ⟨["bal", "fil", "fr", "ga", "hy", "lo", "mo", "ms", "ro", "tl", "vi"],
    fun o => oneIf (o.isAny [1])⟩,
  ⟨["hu"], fun o => oneIf (o.isAny [1, 5])⟩,
  ⟨["ne"], fun o => oneIf (o.is (within 1 4))⟩,
  ⟨["sv"], fun o => oneIf (o.is fun n => endsIn 1 n || endsIn 2 n)⟩,
  ⟨["es"], fun o => oneIf (o.is fun n => [1, 3].contains (n % 10) && n % 100 != 11)⟩,
  ⟨["sq"], fun o => firstOf [(.one, o.isAny [1]), (.many, o.is (endsIn 4))]⟩,
  ⟨["uk"], fun o => firstOf [(.few, o.is (endsIn 3))]⟩,
  ⟨["be"], fun o => firstOf [(.few, o.is fun n => endsIn 2 n || endsIn 3 n)]⟩,
  ⟨["tk"], fun o => firstOf [(.few, o.is fun n => [6, 9].contains (n % 10) || n == 10)]⟩,
  ⟨["it", "lld", "sc", "vec"], fun o => firstOf [(.many, o.isAny [8, 11, 80, 800])]⟩,
  ⟨["lij", "scn"], fun o =>
    firstOf [(.many, o.is fun n => [8, 11].contains n || within 80 89 n || within 800 899 n)]⟩,
  ⟨["kk"], fun o =>
    firstOf [(.many, o.is fun n => n != 0 && [0, 6, 9].contains (n % 10))]⟩,
  ⟨["ka"], fun o =>
    firstOf [
      (.one, o.whole == 1),
      (.many, o.whole == 0 || within 2 20 (o.whole % 100)
        || [40, 60, 80].contains (o.whole % 100))]⟩,
  ⟨["kw"], fun o =>
    firstOf [(.one, o.is fun n => within 1 4 (n % 20)), (.many, o.is fun n => n % 100 == 5)]⟩,
  ⟨["blo"], fun o =>
    firstOf [(.zero, o.whole == 0), (.one, o.whole == 1), (.few, within 2 6 o.whole)]⟩,
  ⟨["az"], fun o =>
    firstOf [
      (.one, [1, 2, 5, 7, 8].contains (o.whole % 10)
        || [20, 50, 70, 80].contains (o.whole % 100)),
      (.few, within 3 4 (o.whole % 10)
        || (o.whole % 100 == 0 && within 100 900 (o.whole % 1000))),
      (.many, o.whole == 0 || o.whole % 10 == 6 || [40, 60, 90].contains (o.whole % 100))]⟩,
  ⟨["mk"], fun o =>
    firstOf [
      (.one, endsIn 1 o.whole), (.two, endsIn 2 o.whole),
      (.many, endsIn 7 o.whole || endsIn 8 o.whole)]⟩,
  ⟨["ca"], fun o =>
    firstOf [(.one, o.isAny [1, 3]), (.two, o.isAny [2]), (.few, o.isAny [4])]⟩,
  ⟨["kok", "mr"], fun o =>
    firstOf [(.one, o.isAny [1]), (.two, o.isAny [2, 3]), (.few, o.isAny [4])]⟩,
  ⟨["gd"], fun o =>
    firstOf [(.one, o.isAny [1, 11]), (.two, o.isAny [2, 12]), (.few, o.isAny [3, 13])]⟩,
  ⟨["gu", "hi"], fun o =>
    firstOf [
      (.one, o.isAny [1]), (.two, o.isAny [2, 3]), (.few, o.isAny [4]), (.many, o.isAny [6])]⟩,
  ⟨["as", "bn"], fun o =>
    firstOf [
      (.one, o.isAny [1, 5, 7, 8, 9, 10]), (.two, o.isAny [2, 3]), (.few, o.isAny [4]),
      (.many, o.isAny [6])]⟩,
  ⟨["or"], fun o =>
    firstOf [
      (.one, o.isAny [1, 5, 7, 8, 9]), (.two, o.isAny [2, 3]), (.few, o.isAny [4]),
      (.many, o.isAny [6])]⟩,
  ⟨["cy"], fun o =>
    firstOf [
      (.zero, o.isAny [0, 7, 8, 9]), (.one, o.isAny [1]), (.two, o.isAny [2]),
      (.few, o.isAny [3, 4]), (.many, o.isAny [5, 6])]⟩]

/-- The families of a kind. -/
def families : Kind → List Family
  | .cardinal => cardinal
  | .ordinal => ordinal

-- ================================================= rules of a locale

/-- The languages of each script but Latin. -/
def scripts : List (String × List String) := [
  ("Arab", ["ar", "ars", "bal", "ckb", "fa", "ks", "ps", "sd", "sdh", "ug", "ur"]),
  ("Armn", ["hy"]), ("Beng", ["as", "bn"]), ("Cans", ["csw", "iu"]), ("Cher", ["chr"]),
  ("Cyrl", ["be", "bg", "ce", "cv", "kk", "ky", "mk", "mn", "os", "ru", "sah", "sr", "uk"]),
  ("Deva", ["bho", "brx", "doi", "hi", "kok", "mr", "ne"]), ("Ethi", ["am", "ti", "tig"]),
  ("Geor", ["ka"]), ("Grek", ["el"]), ("Gujr", ["gu"]), ("Guru", ["pa"]), ("Hans", ["zh"]),
  ("Hant", ["yue"]), ("Hebr", ["he", "iw", "ji", "yi"]), ("Hmnp", ["hnj"]), ("Jpan", ["ja"]),
  ("Khmr", ["km"]), ("Knda", ["kn"]), ("Kore", ["ko"]), ("Laoo", ["lo"]), ("Mlym", ["ml"]),
  ("Mymr", ["my"]), ("Nkoo", ["nqo"]), ("Olck", ["sat"]), ("Orya", ["or"]), ("Osge", ["osa"]),
  ("Sinh", ["si"]), ("Syrc", ["syr"]), ("Taml", ["ta"]), ("Telu", ["te"]), ("Tfng", ["shi"]),
  ("Thaa", ["dv"]), ("Thai", ["th"]), ("Tibt", ["bo", "dz"]), ("Yiii", ["ii"])]

/-- The regions in which a language has another script than elsewhere. -/
def regionalScripts : List (String × String × List String) := [
  ("az", "Arab", ["IQ", "IR"]), ("az", "Cyrl", ["RU"]), ("ha", "Arab", ["CM", "SD"]),
  ("kk", "Arab", ["AF", "CN", "IR", "MN"]), ("ku", "Arab", ["IQ", "IR", "LB"]),
  ("ku", "Cyrl", ["AM", "AZ", "GE", "TM"]), ("ky", "Arab", ["CN"]), ("ky", "Latn", ["TR"]),
  ("mn", "Mong", ["CN"]), ("ms", "Arab", ["CC"]), ("pa", "Arab", ["PK"]),
  ("sd", "Deva", ["IN"]), ("sr", "Latn", ["ME", "RO", "TR"]), ("ug", "Cyrl", ["KZ", "MN"]),
  ("uz", "Arab", ["AF"]), ("uz", "Cyrl", ["CN"])]

/-- The script that the rules of the language are for. -/
def scriptOfRules (language : String) : String :=
  match scripts.find? (·.2.contains language) with
  | some s => s.1
  | none => "Latn"

/-- The script in which the locale's language is written where the locale
leaves it open. -/
def usualScript (l : Locale) : String :=
  match regionalScripts.find? fun s => s.1 == l.language && l.region.any s.2.2.contains with
  | some s => s.2.1
  | none => scriptOfRules l.language

/-- The regions that follow Portugal in matters of Portuguese. -/
def europeanPortuguese : List String :=
  ["PT", "AO", "CH", "CV", "FR", "GQ", "GW", "LU", "MO", "MZ", "ST", "TL"]

/-- Languages that have rules in another script than the usual one as
well, and the language whose rules these are. -/
def rulesInOtherScripts : List (String × String × String) := [
  ("hi", "Latn", "en"), ("kok", "Latn", "kok")]

/-- The name under which the rules of a locale are found; in another script
than the usual one there are mostly none. European Portuguese has rules of
its own. -/
def rulesOf (l : Locale) : String :=
  let script := l.script.getD (usualScript l)
  if script ≠ usualScript l ∨ script ≠ scriptOfRules l.language then
    match rulesInOtherScripts.find? fun s => s.1 == l.language && s.2.1 == script with
    | some s => s.2.2
    | none => "und"
  else if l.language = "pt" ∧ l.region.any europeanPortuguese.contains then "pt-PT"
  else l.language

/-- The rules of all locales: there is none without. -/
def cldr : Source := fun kind l => .ok (rulesIn (families kind) (rulesOf l))

end MessageCatalog.Plural
