import ProxySettings.Encoding.Utf8
import ProxySettings.Text.Ascii

/-!
# Header fields

A message carries a list of header fields. Names are tokens and count without case: they are kept in
lower case. Values are bytes.
-/

namespace ProxySettings

/-- A header field; the name is in lower case. -/
structure Header where
  name : String
  value : List UInt8
  deriving Repr, DecidableEq

/-- The header fields of a message, in order. -/
abbrev Headers := List Header

namespace Header

/-- The field that carries a client's credentials. -/
def proxyAuthorization : String := "proxy-authorization"

/-- The field that asks a client for credentials. -/
def proxyAuthenticate : String := "proxy-authenticate"

/-- The longest name of a field, in bytes. -/
def maxName : Nat := 65535

private def isTokenChar (c : Char) : Bool :=
  Text.isAlphanumeric c || "!#$%&\x27*+-.^_\x60|~".toList.contains c

/-- A text that names a field. -/
def isName (name : String) : Bool :=
  !name.isEmpty && name.utf8ByteSize ≤ maxName && name.toList.all isTokenChar

/-- A byte of a value: no control but the tab. -/
def isValueByte (b : UInt8) : Bool := (32 ≤ b && b ≠ 127) || b == 9

/-- A byte that shows in ASCII, a space or a tab. -/
def isVisibleByte (b : UInt8) : Bool := (32 ≤ b && b < 127) || b == 9

/-- A field with a name of any case, if name and value are allowed. -/
def ofText? (name value : String) : Option Header :=
  let bytes := Utf8.encode value
  if isName name && bytes.all isValueByte then some ⟨Text.asciiLower name, bytes⟩ else none

/-- The text of a value that shows in ASCII. -/
def text? (h : Header) : Option String :=
  if h.value.all isVisibleByte then some (String.ofList (h.value.map fun b ↦ Char.ofNat b.toNat))
  else none

/-- A value in reports: quoted, with the bytes that do not show in hexadecimal. -/
def describeValue (value : List UInt8) : String :=
  let shown (b : UInt8) : String :=
    if b = 34 then "\\\""
    else if isVisibleByte b then (Char.ofNat b.toNat).toString
    else "\\x" ++ Text.hexText b.toNat
  "\"" ++ String.join (value.map shown) ++ "\""

end Header

namespace Headers

/-- The first field of a name, which is in lower case. -/
def first? (hs : Headers) (name : String) : Option Header := hs.find? (·.name == name)

/-- The fields without those of a name. -/
def without (hs : Headers) (name : String) : Headers := hs.filter (·.name != name)

end Headers

end ProxySettings
