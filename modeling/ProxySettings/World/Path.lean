import ProxySettings.Text.Blank

/-!
# Path texts

Paths are kept as they are written; they are joined and expanded, but never normalised.
-/

namespace ProxySettings.World

/-- A path that starts at the root. -/
def isAbsolute (path : String) : Bool := path.toList.head? == some '/'

/-- A path seen from a directory: an absolute path stays, any other follows the directory after one
slash. -/
def join (dir path : String) : String :=
  if isAbsolute path then path
  else if dir.isEmpty ∨ dir.toList.getLast? = some '/' then dir ++ path
  else dir ++ "/" ++ path

/-- The names between the slashes of a path, empty ones included. -/
def components (path : String) : List String :=
  (Text.splitOnAll (· == '/') path.toList).map String.ofList

/-- The part of the last name after its last dot; a leading dot starts no extension, and `..` has
none. -/
def extension? (path : String) : Option String :=
  match (components path).getLast? with
  | none => none
  | some name =>
    if name = ".." then none
    else
      match Text.cutAt '.' name.toList.reverse with
      | none => none
      | some (_, []) => none
      | some (after, _) => some (String.ofList after.reverse)

end ProxySettings.World
