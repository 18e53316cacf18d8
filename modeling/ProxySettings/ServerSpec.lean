import ProxySettings.Error
import ProxySettings.Url.Basic

/-!
# Server specifications

A server is given as a web address that names nothing but the server: no path, query, fragment or
user. In the proxy this is `ServerSpec`.
-/

namespace ProxySettings

/-- A server to connect to. The host of an IPv6 address has no brackets. -/
structure ServerSpec where
  tls : Bool
  host : String
  port : UInt16
  deriving Repr, DecidableEq

namespace ServerSpec

/-- The server of a web address, if that is all it names. -/
def ofUrl? (url : Url) : Option ServerSpec :=
  if url.path = [[]] ∧ url.query = none ∧ url.fragment = none ∧ url.username = [] then
    some ⟨url.tls, url.host.text, url.port.getD (Url.defaultPort url.tls)⟩
  else none

/-- Read a server specification. -/
def parse (text : String) : Except ConfigError ServerSpec :=
  match (Url.parse? text).bind ofUrl? with
  | some server => .ok server
  | none => .error (.invalidFormat .serverSpec text)

/-- A server as a web address with its port; the host of an IPv6 address is put in brackets. -/
def text (s : ServerSpec) : String :=
  let host := if s.host.toList.contains ':' then "[" ++ s.host ++ "]" else s.host
  (if s.tls then "https" else "http") ++ "://" ++ host ++ ":" ++ toString s.port.toNat

/-- A server in reports. -/
def describe (s : ServerSpec) : String :=
  "ServerSpec \x7b tls: " ++ toString s.tls ++ ", host: " ++ Text.quoted s.host ++ ", port: " ++
    toString s.port.toNat ++ " \x7d"

end ServerSpec

end ProxySettings
