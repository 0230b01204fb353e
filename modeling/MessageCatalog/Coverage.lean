/-
Coverage: how much of a resource has a counterpart in another language.

Messages correspond if their dotted paths are equal. Two messages of one
resource whose dotted paths are equal count once.
-/
import MessageCatalog.Resource

namespace MessageCatalog

/-- How much of a source is covered, by dotted paths of messages. -/
structure Coverage where
  covered : Nat
  total : Nat
  /-- The paths that only the source has. -/
  missing : List String
  /-- The paths that only the counterpart has. -/
  extra : List String
deriving DecidableEq, Repr

/-- The dotted paths of all messages, sorted and without repetition. -/
def Resource.distinctPaths (r : Resource) : List String := r.messagePaths.eraseDups

namespace Coverage

/-- Compares two lists of paths. -/
def compare (source counterpart : List String) : Coverage where
  covered := (source.filter fun p => counterpart.contains p).length
  total := source.length
  missing := source.filter fun p => !counterpart.contains p
  extra := counterpart.filter fun p => !source.contains p

/-- The coverage of a source by its counterpart. Without a counterpart
nothing is covered. -/
def of (source : Resource) (counterpart : Option Resource) : Coverage :=
  compare source.distinctPaths ((counterpart.map Resource.distinctPaths).getD [])

/-- Whether no path is missing. -/
def isComplete (c : Coverage) : Bool := c.missing.isEmpty

end Coverage

end MessageCatalog
