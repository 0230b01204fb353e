/-
Paths of files, as texts.

Names stand between slashes. A path that starts with a slash starts at
the root; empty names and names that are a single point mean nothing,
but for a point at the very start.
-/
import MessageCatalog.Text.Split

namespace MessageCatalog.Command.Path

/-- Whether a name between slashes leads nowhere. -/
def isIdle (name : String) : Bool := name == "" || name == "."

/-- Names without the idle ones at their end. -/
def dropIdle (names : List String) : List String := (names.reverse.dropWhile isIdle).reverse

/-- A path from its first name, empty for the root, and the names behind
it. -/
def ofNames (first : String) : List String → String
  | [] => if first == "" then "/" else first
  | rest => "/".intercalate (first :: rest)

/-- The path of the directory that holds a path. The root and the empty
path have none; a bare name is held by the empty path. -/
def parent? (path : String) : Option String :=
  match Text.split '/' path with
  | [] => none
  | first :: rest =>
    match dropIdle rest with
    | [] => if first == "" then none else some ""
    | names => some (ofNames first (dropIdle names.dropLast))

/-- A path below a directory. A path from the root stays as it is. -/
def join (directory path : String) : String :=
  if directory == "" || path.startsWith "/" then path
  else if directory.endsWith "/" then directory ++ path
  else directory ++ "/" ++ path

end MessageCatalog.Command.Path
