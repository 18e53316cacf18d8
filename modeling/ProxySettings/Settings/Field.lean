import ProxySettings.Settings.Layer

/-!
# The fields of the settings

Every setting has a name and a kind of values. The kind says which values of a layer the setting
takes and how its values are written. In the proxy these are the fields of `ProxyOptions`.
-/

namespace ProxySettings

/-- The kinds of settings. -/
inductive FieldKind where
  | flag
  | text
  | optionalText
  | texts
  | port
  | ports
  deriving Repr, DecidableEq

namespace FieldKind

/-- The values of a kind. -/
abbrev Value : FieldKind → Type
  | flag => Bool
  | text => String
  | optionalText => Option String
  | texts => List String
  | port => UInt16
  | ports => List UInt16

/-- The value of a kind that says nothing. -/
def blank : (kind : FieldKind) → kind.Value
  | flag => false
  | text => ""
  | optionalText => none
  | texts => []
  | port => 0
  | ports => []

/-- The text that a value of a layer is. -/
def text? : Datum → Option String
  | .text s => some s
  | _ => none

/-- The port that a value of a layer is. -/
def port? : Datum → Option UInt16
  | .integer n => if 0 ≤ n ∧ n < 65536 then some (UInt16.ofNat n.toNat) else none
  | _ => none

/-- The value of a kind that a value of a layer is. Only a text that may be absent may be null. -/
def decode? : (kind : FieldKind) → Datum → Option kind.Value
  | flag, .bool b => some b
  | text, datum => text? datum
  | optionalText, .null => some none
  | optionalText, datum => (text? datum).map some
  | texts, .list items => items.mapM text?
  | port, datum => port? datum
  | ports, .list items => items.mapM port?
  | _, _ => none

/-- A value of a kind in JSON. -/
def encode : (kind : FieldKind) → kind.Value → Json
  | flag, b => .bool b
  | text, s => .text s
  | optionalText, s => .ofOption .text s
  | texts, ss => .array (ss.map .text)
  | port, p => .nat p.toNat
  | ports, ps => .array (ps.map fun p ↦ .nat p.toNat)

theorem port?_datum (p : UInt16) : port? (Json.nat p.toNat).datum = some p := by
  have h : (p.toNat : Int) < 65536 := by have := p.toNat_lt; omega
  simp [Json.nat, Json.datum, Json.Number.int?, port?, h]

/-- A value that is written is read back. -/
theorem decode?_encode (kind : FieldKind) (v : kind.Value) :
    kind.decode? (kind.encode v).datum = some v := by
  have texts (ss : List String) : (Json.data (ss.map .text)).mapM text? = some ss := by
    induction ss with
    | nil => rfl
    | cons s ss ih => simp [Json.data, Json.text, Json.datum, text?, ih]
  have ports (ps : List UInt16) :
      (Json.data (ps.map fun p ↦ .nat p.toNat)).mapM port? = some ps := by
    induction ps with
    | nil => rfl
    | cons p ps ih => simp [Json.data, port?_datum, ih]
  cases kind with
  | flag => rfl
  | text => rfl
  | optionalText => cases v <;> rfl
  | texts => exact texts v
  | port => exact port?_datum v
  | ports => exact ports v

end FieldKind

/-- The settings. -/
inductive Field where
  | addr
  | port
  | cadir
  | clientcerts
  | noUpstreamCert
  | bodySizeLimit
  | transparentProxy
  | socksProxy
  | reverseProxy
  | upstreamProxy
  | httpFormIn
  | httpFormOut
  | ignoreHosts
  | tcpHosts
  | authNonanonymous
  | authSingleuser
  | authHtpasswd
  | ciphersClient
  | ciphersServer
  | certs
  | certforward
  | sslVersionClient
  | sslVersionServer
  | sslPorts
  deriving Repr, DecidableEq

namespace Field

/-- The settings in the order in which they are written. -/
def all : List Field := [
  addr, port, cadir, clientcerts, noUpstreamCert, bodySizeLimit, transparentProxy, socksProxy,
  reverseProxy, upstreamProxy, httpFormIn, httpFormOut, ignoreHosts, tcpHosts, authNonanonymous,
  authSingleuser, authHtpasswd, ciphersClient, ciphersServer, certs, certforward, sslVersionClient,
  sslVersionServer, sslPorts]

/-- The name of a setting. -/
def name : Field → String
  | addr => "addr"
  | port => "port"
  | cadir => "cadir"
  | clientcerts => "clientcerts"
  | noUpstreamCert => "no_upstream_cert"
  | bodySizeLimit => "body_size_limit"
  | transparentProxy => "transparent_proxy"
  | socksProxy => "socks_proxy"
  | reverseProxy => "reverse_proxy"
  | upstreamProxy => "upstream_proxy"
  | httpFormIn => "http_form_in"
  | httpFormOut => "http_form_out"
  | ignoreHosts => "ignore_hosts"
  | tcpHosts => "tcp_hosts"
  | authNonanonymous => "auth_nonanonymous"
  | authSingleuser => "auth_singleuser"
  | authHtpasswd => "auth_htpasswd"
  | ciphersClient => "ciphers_client"
  | ciphersServer => "ciphers_server"
  | certs => "certs"
  | certforward => "certforward"
  | sslVersionClient => "ssl_version_client"
  | sslVersionServer => "ssl_version_server"
  | sslPorts => "ssl_ports"

/-- The kind of a setting. -/
abbrev kind : Field → FieldKind
  | addr => .text
  | port => .port
  | cadir => .text
  | clientcerts => .optionalText
  | noUpstreamCert => .flag
  | bodySizeLimit => .optionalText
  | transparentProxy => .flag
  | socksProxy => .flag
  | reverseProxy => .optionalText
  | upstreamProxy => .optionalText
  | httpFormIn => .optionalText
  | httpFormOut => .optionalText
  | ignoreHosts => .texts
  | tcpHosts => .texts
  | authNonanonymous => .flag
  | authSingleuser => .optionalText
  | authHtpasswd => .optionalText
  | ciphersClient => .optionalText
  | ciphersServer => .optionalText
  | certs => .texts
  | certforward => .flag
  | sslVersionClient => .text
  | sslVersionServer => .text
  | sslPorts => .ports

theorem mem_all (f : Field) : f ∈ all := by cases f <;> decide

end Field

end ProxySettings
