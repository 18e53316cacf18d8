import ProxySettings.Encoding.Utf8
import ProxySettings.World.Path

/-!
# The world of files and variables

Options are resolved in a world: a tree of directories, files and symbolic links, a working
directory, a home directory and environment variables. The tree is a list of places, each a list of
names from the root, with what is there. Looking up a path follows links and never leaves the root.
There may be no home directory, and the working directory may be gone.
-/

namespace ProxySettings.World

/-- What a place of the tree holds. -/
inductive Entry where
  | dir
  | file (bytes : List UInt8)
  | link (target : String)
  deriving Repr, DecidableEq

/-- The names from the root to a place. -/
abbrev Place := List String

/-- Why the system refuses to look up or to read a path. -/
inductive IoFault where
  | notFound
  | notDirectory
  | isDirectory
  | denied
  | nameTooLong
  | tooManyLinks
  | nulInName
  | notUtf8
  deriving Repr, DecidableEq

/-- The text of a refusal. -/
def IoFault.message : IoFault → String
  | notFound => "No such file or directory (os error 2)"
  | notDirectory => "Not a directory (os error 20)"
  | isDirectory => "Is a directory (os error 21)"
  | denied => "Permission denied (os error 13)"
  | nameTooLong => "File name too long (os error 36)"
  | tooManyLinks => "Too many levels of symbolic links (os error 40)"
  | nulInName => "file name contained an unexpected NUL byte"
  | notUtf8 => "stream did not contain valid UTF-8"

end ProxySettings.World

namespace ProxySettings

open World (Entry Place IoFault)

/-- Files, directories and variables. The working directory is what the system answers when it is
asked for it, and the home directory is that of the user, if there is one. -/
structure World where
  entries : List (Place × Entry)
  workDir : Except IoFault String
  home : Option String
  environment : List (String × String)
  deriving Repr

namespace World

/-- What a place holds; the root is a directory. -/
def entryAt? (w : World) (place : Place) : Option Entry :=
  if place = [] then some .dir else w.entries.lookup place

/-- The longest name of a directory entry, in bytes. -/
def maxName : Nat := 255

/-- The longest path, in bytes. -/
def maxPath : Nat := 4095

/-- The number of links that one look-up follows. -/
def maxLinks : Nat := 40

/-- Walk names from a place. The result is the place reached and what it holds; nothing, if only the
last name is missing. A link in the way is always followed, and a link at the end if `follow`. -/
def walk (w : World) (follow : Bool) (links : Nat) (place : Place) (names : List String) :
    Except IoFault (Place × Option Entry) :=
  match names with
  | [] => .ok (place, w.entryAt? place)
  | name :: rest =>
    if name = "" ∨ name = "." then w.walk follow links place rest
    else if name = ".." then w.walk follow links place.dropLast rest
    else if maxName < name.utf8ByteSize then .error .nameTooLong
    else
      let next := place ++ [name]
      match w.entryAt? next with
      | none => if rest.isEmpty then .ok (next, none) else .error .notFound
      | some .dir => w.walk follow links next rest
      | some (.file bytes) =>
        if rest.isEmpty then .ok (next, some (.file bytes)) else .error .notDirectory
      | some (.link target) =>
        if rest.isEmpty && !follow then .ok (next, some (.link target))
        else
          match links with
          | 0 => .error .tooManyLinks
          | links + 1 =>
            w.walk follow links (if isAbsolute target then [] else place)
              (components target ++ rest)
termination_by (links, names.length)

/-- The place where a walk along a path starts. Without a working directory there is none for a
relative path. -/
def origin (w : World) (path : String) : Except IoFault Place :=
  if isAbsolute path then .ok [] else w.workDir.map fun dir ↦ (components dir).filter (· ≠ "")

/-- Look up a path: the place it leads to and what is there. -/
def locate (w : World) (follow : Bool) (path : String) : Except IoFault (Place × Option Entry) :=
  if path.toList.contains '\x00' then .error .nulInName
  else if path.isEmpty then .error .notFound
  else if maxPath < path.utf8ByteSize then .error .nameTooLong
  else do w.walk follow maxLinks (← w.origin path) (components path)

/-- What a path leads to. -/
def find (w : World) (path : String) : Except IoFault Entry :=
  match w.locate true path with
  | .ok (_, some entry) => .ok entry
  | .ok (_, none) => .error .notFound
  | .error fault => .error fault

/-- A path leads to something. -/
def doesExist (w : World) (path : String) : Bool := (w.find path).toOption.isSome

/-- A path leads to a directory. -/
def isDir (w : World) (path : String) : Bool := (w.find path).toOption == some .dir

/-- The bytes of the file that a path leads to. -/
def file? (w : World) (path : String) : Option (List UInt8) :=
  match w.find path with
  | .ok (.file bytes) => some bytes
  | _ => none

/-- A path leads to a file. -/
def isFile (w : World) (path : String) : Bool := (w.file? path).isSome

theorem doesExist_iff {w : World} {path : String} :
    w.doesExist path = true ↔ ∃ entry, w.find path = .ok entry := by
  rw [doesExist]
  cases w.find path <;> simp [Except.toOption]

theorem isDir_iff {w : World} {path : String} : w.isDir path = true ↔ w.find path = .ok .dir := by
  rw [isDir]
  cases w.find path <;> simp [Except.toOption]

theorem isFile_iff {w : World} {path : String} :
    w.isFile path = true ↔ ∃ bytes, w.find path = .ok (.file bytes) := by
  rw [isFile, file?]
  split
  · next bytes h => simpa using ⟨bytes, h⟩
  · next h => simpa using h

/-- The bytes that a path's reader delivers: a directory opens, but cannot be read. -/
def read (w : World) (path : String) : Except IoFault (Except IoFault (List UInt8)) :=
  match w.find path with
  | .ok (.file bytes) => .ok (.ok bytes)
  | .ok _ => .ok (.error .isDirectory)
  | .error fault => .error fault

/-- The characters of bytes that are UTF-8. -/
def decode (bytes : List UInt8) : Except IoFault String :=
  match Utf8.decode? bytes with
  | some s => .ok s
  | none => .error .notUtf8

end World

end ProxySettings
