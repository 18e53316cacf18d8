import ProxySettings.Url.Host

/-!
# Web addresses

An address with the scheme `http` or `https`, read as browsers read it: controls and spaces around
it and line breaks and tabs within it do not count, any number of slashes of either kind stands
before the host, and dots in the path are resolved. In the proxy `ServerSpec` is read from such an
address.
-/

namespace ProxySettings

/-- A web address. The parts other than the host are kept as they are written. -/
structure Url where
  tls : Bool
  username : List Char
  password : List Char
  host : Url.Host
  port : Option UInt16
  path : List (List Char)
  query : Option (List Char)
  fragment : Option (List Char)
  deriving Repr, DecidableEq

namespace Url

/-- The controls and the space, which do not count around an address. -/
def isMargin (c : Char) : Bool := c.toNat ≤ 32

/-- The tab and the line breaks, which do not count anywhere in an address. -/
def isBreak (c : Char) : Bool := c == '\t' || c == '\n' || c == '\r'

/-- The characters of an address that count. -/
def counted (cs : List Char) : List Char := (Text.trimWhile isMargin cs).filter (!isBreak ·)

/-- The characters of the names of schemes. -/
def isSchemeChar (c : Char) : Bool := Text.isAlphanumeric c || "+-.".toList.contains c

/-- The scheme in lower case, and the text after its colon. -/
def scheme? (cs : List Char) : Option (List Char × List Char) :=
  match cs.span isSchemeChar with
  | (c :: name, ':' :: rest) =>
    if c.isAlpha then some ((c :: name).map Char.toLower, rest) else none
  | _ => none

/-- A slash of either kind. -/
def isSlash (c : Char) : Bool := c == '/' || c == '\\'

/-- The characters that end the part of an address with the host. -/
def endsAuthority (c : Char) : Bool := isSlash c || c == '?' || c == '#'

/-- The text after the last sign `@` of an authority, and the user information before it. -/
def credentials (authority : List Char) : List Char × List Char :=
  match authority.reverse.span (· != '@') with
  | (_, []) => ([], authority)
  | (after, _ :: before) => (before.reverse, after.reverse)

/-- The host of an authority up to a colon outside brackets, and the text from there. -/
def hostText (inBrackets : Bool) : List Char → List Char × List Char
  | [] => ([], [])
  | c :: rest =>
    if c = ':' ∧ !inBrackets then ([], c :: rest)
    else
      let inside := if c = '[' then true else if c = ']' then false else inBrackets
      let (host, after) := hostText inside rest
      (c :: host, after)

/-- The port that a scheme stands for. -/
def defaultPort (tls : Bool) : UInt16 := if tls then 443 else 80

/-- The port after the host; the default port counts as none. -/
def port? (tls : Bool) (cs : List Char) : Option (Option UInt16) :=
  match cs with
  | [] => some none
  | _ :: [] => some none
  | _ :: digits =>
    match Text.number? 10 digits with
    | none => none
    | some n =>
      if 65535 < n then none
      else if n = (defaultPort tls).toNat then some none
      else some (some (UInt16.ofNat n))

/-- The segment of the directory itself. -/
def isDot (segment : List Char) : Bool :=
  [".", "%2e"].any (·.toList == segment.map Char.toLower)

/-- The segment of the directory above. -/
def isTwoDots (segment : List Char) : Bool :=
  ["..", ".%2e", "%2e.", "%2e%2e"].any (·.toList == segment.map Char.toLower)

/-- The segments of a path with its dots resolved; `before` holds the segments so far. -/
def resolve (before : List (List Char)) : List (List Char) → List (List Char)
  | [] => before
  | segment :: rest =>
    if isTwoDots segment then
      resolve (before.dropLast ++ (if rest.isEmpty then [[]] else [])) rest
    else if isDot segment then resolve (before ++ (if rest.isEmpty then [[]] else [])) rest
    else resolve (before ++ [segment]) rest

/-- The segments of a path that is written after the host. -/
def pathOf (cs : List Char) : List (List Char) :=
  let cs := match cs with
    | c :: rest => if isSlash c then rest else c :: rest
    | [] => []
  resolve [] (Text.splitOnAll isSlash cs)

/-- The text before the first place of a character, and the text after it if there is one. -/
def cutBefore (c : Char) (cs : List Char) : List Char × Option (List Char) :=
  match cs.span (· != c) with
  | (before, []) => (before, none)
  | (before, _ :: after) => (before, some after)

/-- Read what follows the scheme of an address. -/
def afterScheme (tls : Bool) (cs : List Char) : Option Url := do
  let cs := cs.dropWhile isSlash
  let (authority, rest) := cs.span (!endsAuthority ·)
  let (user, address) := credentials authority
  let (hostPart, portPart) := hostText false address
  let host ← Host.parse? hostPart
  let port ← port? tls portPart
  let (before, fragment) := cutBefore '#' rest
  let (path, query) := cutBefore '?' before
  let (username, password) := user.span (· != ':')
  return ⟨tls, username, password.drop 1, host, port, pathOf path, query, fragment⟩

/-- Read a web address. -/
def parse? (text : String) : Option Url :=
  match scheme? (counted text.toList) with
  | some (scheme, rest) =>
    if scheme = "http".toList then afterScheme false rest
    else if scheme = "https".toList then afterScheme true rest
    else none
  | none => none

end Url

end ProxySettings
