/-
Linting: what can be said against a resource without formatting it.

A selection is checked for cases that can never fit or are never
reached and for a case that fits every value; references whose path is
all literals and that stay within the resource are checked for a
message at their path.
-/
import MessageCatalog.Resource

namespace MessageCatalog.Lint

/-- What is wrong with a message. -/
inductive Finding where
  | caseKeyArity (index expected got : Nat)
  | missingFallbackCase
  | unreachableCase (index : Nat)
  | unresolvedReference (target : String)
  | emptySelect
deriving DecidableEq, Repr

/-- A finding and the dotted path of the message that it is about. -/
structure Warning where
  message : String
  finding : Finding
deriving DecidableEq, Repr

/-- The wording of a finding. -/
def Finding.text : Finding → String
  | .caseKeyArity index expected got =>
    "case " ++ toString index ++ " has " ++ toString got ++ " keys but there are "
      ++ toString expected ++ " selectors"
  | .missingFallbackCase =>
    "no case matches the selector defaults, some inputs format to an empty string"
  | .unreachableCase index =>
    "case " ++ toString index ++ " is unreachable after a default case"
  | .unresolvedReference target => "reference to missing message '" ++ target ++ "'"
  | .emptySelect => "select has no selectors"

/-- The wording of a warning. -/
def Warning.text (w : Warning) : String := "message '" ++ w.message ++ "': " ++ w.finding.text

-- =========================================================== selections

/-- Whether two lists of literals agree item by item. -/
def sameKeys : List Literal → List Literal → Bool
  | [], [] => true
  | a :: as, b :: bs => a.agrees b && sameKeys as bs
  | _, _ => false

/-- The findings on cases from an index on. The flag says whether a case
before them has the defaults for its keys. -/
def caseFindings (defaults : List Literal) : (index : Nat) → (caught : Bool) → List Case →
    List Finding
  | _, caught, [] => if caught then [] else [.missingFallbackCase]
  | index, caught, c :: rest =>
    if c.keys.length ≠ defaults.length then
      .caseKeyArity index defaults.length c.keys.length
        :: caseFindings defaults (index + 1) caught rest
    else if caught then
      .unreachableCase index :: caseFindings defaults (index + 1) caught rest
    else caseFindings defaults (index + 1) (sameKeys c.keys defaults) rest

/-- The findings on a selection. -/
def selectionFindings (s : Selection) : List Finding :=
  if s.selectors.isEmpty then [.emptySelect]
  else caseFindings (s.selectors.map Selector.defaultKey) 0 false s.cases

-- =========================================================== references

/-- The path of a reference whose segments are all literals. -/
def staticPath? : List Element → Option (List String)
  | [] => some []
  | .literal l :: rest => (staticPath? rest).map (l.text :: ·)
  | _ :: _ => none

/-- Whether a reference means the resource itself. -/
def staysWithin (r : Resource) (target : Option String) : Bool :=
  match target with
  | some id => id == r.id
  | none => true

/-- The finding on a reference itself. -/
def referenceFinding (r : Resource) (target : Option String) (path : List Element) :
    List Finding :=
  match staticPath? path with
  | some names =>
    if staysWithin r target && (r.message? names).isNone then
      [.unresolvedReference (dotted names)]
    else []
  | none => []

mutual

/-- The findings on an element and all elements within it. -/
def elementFindings (r : Resource) : Element → List Finding
  | .literal _ => []
  | .variable path => elementsFindings r path
  | .call _ args _ => elementsFindings r args
  | .message target path none => elementsFindings r path ++ referenceFinding r target path
  | .message target path (some overrides) =>
    elementsFindings r path ++ overridesFindings r overrides ++ referenceFinding r target path

/-- The findings on elements, in order. -/
def elementsFindings (r : Resource) : List Element → List Finding
  | [] => []
  | e :: rest => elementFindings r e ++ elementsFindings r rest

/-- The findings on overrides, in order. -/
def overridesFindings (r : Resource) : List (String × Override) → List Finding
  | [] => []
  | (_, .element e) :: rest => elementFindings r e ++ overridesFindings r rest
  | (_, .value _) :: rest => overridesFindings r rest

end

-- ============================================================= messages

/-- The findings on a message. -/
def messageFindings (r : Resource) : Message → List Finding
  | .pattern p => elementsFindings r p
  | .select s =>
    selectionFindings s
      ++ (s.selectors.flatMap fun sel => elementFindings r sel.value)
      ++ s.cases.flatMap fun c => elementsFindings r c.pattern

end Lint

/-- All warnings on a resource, in the order of its messages. -/
def Resource.lint (r : Resource) : List Lint.Warning :=
  r.messages.flatMap fun (path, m) =>
    (Lint.messageFindings r m).map fun f => ⟨dotted path, f⟩

end MessageCatalog
