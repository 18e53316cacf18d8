import ProxySettings.Encoding.Base64
import ProxySettings.Encoding.Utf8
import ProxySettings.Text.Ascii
import ProxySettings.Text.Blank

/-!
# Credentials of a request

A client sends user and password in one value: the word `Basic` and the base64 text of both, joined
by a colon. In the proxy this is `parse_basic_auth`.
-/

namespace ProxySettings

/-- A user with a password. -/
structure Credentials where
  user : String
  password : String
  deriving Repr, DecidableEq

namespace Credentials

/-- The scheme of the credentials; its case does not count. -/
def scheme : String := "basic"

/-- The credentials in a token; a user has no colon. -/
def ofToken? (token : String) : Option Credentials := do
  let bytes ← (Base64.decode (Utf8.encode token)).toOption
  let (user, password) ← Text.cut ':' (← Utf8.decode? bytes)
  return ⟨user, password⟩

/-- The credentials in a value: the scheme and the token, with blanks between and around them
(`parse_basic_auth`). -/
def ofValue? (value : String) : Option Credentials :=
  match Text.words value with
  | [word, token] => if Text.eqIgnoringCase word scheme then ofToken? token else none
  | _ => none

end Credentials

end ProxySettings
