import ProxySettings.Auth.PasswordHash
import ProxySettings.Log
import ProxySettings.Text.Line

/-!
# Files of credentials

A file of credentials has a line `user:hash` for each user. Blanks around a line, empty lines and
lines that start with `#` do not count. Of several lines for one user the last one counts. In the
proxy this is `PassManHtpasswd`.
-/

namespace ProxySettings

/-- The credentials of a file, line by line (`PassManHtpasswd`). -/
structure Htpasswd where
  path : String
  entries : List (String × HashScheme × String)
  deriving Repr, DecidableEq

namespace Htpasswd

/-- A line that holds no credentials. -/
def isSkipped (line : String) : Bool := line.isEmpty || line.toList.head? == some '#'

/-- Read a trimmed line. A line without a user has a fault without a hash. -/
def parseLine (line : String) : Except (Option HashFault) (String × HashScheme × String) :=
  match Text.cut ':' line with
  | none => .error none
  | some (user, hash) =>
    if user.isEmpty then .error none
    else
      match PasswordHash.scheme hash with
      | .ok scheme => .ok (user, scheme, hash)
      | .error fault => .error (some fault)

/-- Read the lines from a number on; the first line with a fault is the refusal. -/
def parseLines (number : Nat) :
    List String → Except CredentialFault (List (String × HashScheme × String))
  | [] => .ok []
  | line :: rest =>
    let line := Text.trim line
    if isSkipped line then parseLines (number + 1) rest
    else
      match parseLine line with
      | .ok entry => (parseLines (number + 1) rest).map (entry :: ·)
      | .error fault => .error (.malformed number fault)

/-- The users of a file, each one once. -/
def users (h : Htpasswd) : List String := (h.entries.map (·.1)).eraseDups

/-- The scheme and the hash that count for a user. -/
def entry? (h : Htpasswd) (user : String) : Option (HashScheme × String) :=
  h.entries.reverse.lookup user

/-- The answer to a user's password. A password that is not hashed is compared as it stands. -/
def test (h : Htpasswd) (user password : String) : Verdict :=
  match h.entry? user with
  | none => .rejected
  | some (.plain, text) => .ofBool (text == password)
  | some (_, hash) => PasswordHash.check hash password

/-- The text of the file at a path. -/
def readText (w : World) (path : String) : Except ConfigError String :=
  if !w.doesExist path then .error (.fileNotFound .htpasswd path)
  else
    match w.file? path with
    | none => .error (.notAFile .htpasswd path)
    | some bytes =>
      match World.decode bytes with
      | .ok text => .ok text
      | .error fault => .error (.credentials (.unreadable path fault))

/-- Load the file at a path (`from_file`). -/
def load (w : World) (path : String) : Traced Htpasswd := do
  let text ← readText w path
  match parseLines 1 (Text.lines text) with
  | .error fault => .refuse (.credentials fault)
  | .ok entries =>
    let loaded : Htpasswd := ⟨path, entries⟩
    .log .debug "Loaded htpasswd file" [("path", path), ("users", toString loaded.users.length)]
    return loaded

/-- A file of credentials in reports. -/
def describe (h : Htpasswd) : String :=
  "PassManHtpasswd \x7b path: " ++ Text.quotedName h.path ++ ", users: " ++
    toString h.users.length ++ " \x7d"

end Htpasswd

end ProxySettings
