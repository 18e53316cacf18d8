import ProxySettings.Auth.Options
import ProxySettings.Settings.Field
import ProxySettings.Tls

/-!
# Settings

The settings of a proxy as they are given, before anything is resolved, and what has to hold of them
before that: at most one mode and at most one way to authenticate is asked for. In the proxy these
are `ProxyOptions` and its `validate`.
-/

namespace ProxySettings

/-- The settings of a proxy (`ProxyOptions`). -/
structure Settings where
  addr : String
  port : UInt16
  cadir : String
  clientcerts : Option String
  noUpstreamCert : Bool
  bodySizeLimit : Option String
  transparentProxy : Bool
  socksProxy : Bool
  reverseProxy : Option String
  upstreamProxy : Option String
  httpFormIn : Option String
  httpFormOut : Option String
  ignoreHosts : List String
  tcpHosts : List String
  authNonanonymous : Bool
  authSingleuser : Option String
  authHtpasswd : Option String
  ciphersClient : Option String
  ciphersServer : Option String
  certs : List String
  certforward : Bool
  sslVersionClient : String
  sslVersionServer : String
  sslPorts : List UInt16
  deriving Repr, DecidableEq

namespace Settings

/-- The directory of certificates unless another one is given (`CA_DIR`). -/
def defaultCadir : String := "~/.mitmproxy"

/-- The ports that carry TLS unless others are given (`TRANSPARENT_SSL_PORTS`). -/
def defaultSslPorts : List UInt16 := [443, 8443]

/-- The settings when nothing is given. -/
def default : Settings where
  addr := ""
  port := 8080
  cadir := defaultCadir
  clientcerts := none
  noUpstreamCert := false
  bodySizeLimit := none
  transparentProxy := false
  socksProxy := false
  reverseProxy := none
  upstreamProxy := none
  httpFormIn := none
  httpFormOut := none
  ignoreHosts := []
  tcpHosts := []
  authNonanonymous := false
  authSingleuser := none
  authHtpasswd := none
  ciphersClient := none
  ciphersServer := none
  certs := []
  certforward := false
  sslVersionClient := TlsVersion.secure.label
  sslVersionServer := TlsVersion.secure.label
  sslPorts := defaultSslPorts

/-! ## Fields -/

/-- The value of a field. -/
def get (s : Settings) : (f : Field) → f.kind.Value
  | .addr => s.addr
  | .port => s.port
  | .cadir => s.cadir
  | .clientcerts => s.clientcerts
  | .noUpstreamCert => s.noUpstreamCert
  | .bodySizeLimit => s.bodySizeLimit
  | .transparentProxy => s.transparentProxy
  | .socksProxy => s.socksProxy
  | .reverseProxy => s.reverseProxy
  | .upstreamProxy => s.upstreamProxy
  | .httpFormIn => s.httpFormIn
  | .httpFormOut => s.httpFormOut
  | .ignoreHosts => s.ignoreHosts
  | .tcpHosts => s.tcpHosts
  | .authNonanonymous => s.authNonanonymous
  | .authSingleuser => s.authSingleuser
  | .authHtpasswd => s.authHtpasswd
  | .ciphersClient => s.ciphersClient
  | .ciphersServer => s.ciphersServer
  | .certs => s.certs
  | .certforward => s.certforward
  | .sslVersionClient => s.sslVersionClient
  | .sslVersionServer => s.sslVersionServer
  | .sslPorts => s.sslPorts

/-- The settings with some values, if every field has one. -/
def ofFields? (value : (f : Field) → Option f.kind.Value) : Option Settings := do
  return {
    addr := ← value .addr
    port := ← value .port
    cadir := ← value .cadir
    clientcerts := ← value .clientcerts
    noUpstreamCert := ← value .noUpstreamCert
    bodySizeLimit := ← value .bodySizeLimit
    transparentProxy := ← value .transparentProxy
    socksProxy := ← value .socksProxy
    reverseProxy := ← value .reverseProxy
    upstreamProxy := ← value .upstreamProxy
    httpFormIn := ← value .httpFormIn
    httpFormOut := ← value .httpFormOut
    ignoreHosts := ← value .ignoreHosts
    tcpHosts := ← value .tcpHosts
    authNonanonymous := ← value .authNonanonymous
    authSingleuser := ← value .authSingleuser
    authHtpasswd := ← value .authHtpasswd
    ciphersClient := ← value .ciphersClient
    ciphersServer := ← value .ciphersServer
    certs := ← value .certs
    certforward := ← value .certforward
    sslVersionClient := ← value .sslVersionClient
    sslVersionServer := ← value .sslVersionServer
    sslPorts := ← value .sslPorts }

theorem ofFields?_get (s : Settings) : ofFields? (fun f ↦ some (s.get f)) = some s := rfl

/-- The value of a field that a layer does not have. Only some fields have one of their own. -/
def missing : (f : Field) → f.kind.Value
  | .port => 8080
  | .cadir => defaultCadir
  | .sslVersionClient => "secure"
  | .sslVersionServer => "secure"
  | .sslPorts => defaultSslPorts
  | f => f.kind.blank

/-- A field that is missing has the value that it has when nothing is given. -/
theorem get_default (f : Field) : default.get f = missing f := by cases f <;> rfl

/-- The value that a layer gives to a field, or the one for a missing field. -/
def layerValue? (layer : Layer) (f : Field) : Option f.kind.Value :=
  match layer.get? f.name with
  | some datum => f.kind.decode? datum
  | none => some (missing f)

/-- The settings of a layer. Names of no field do not count. -/
def ofLayer? (layer : Layer) : Option Settings := ofFields? (layerValue? layer)

/-! ## Exclusive choices -/

/-- The settings that choose a mode (`mode_options`). -/
def modeOptions (s : Settings) : ModeOptions where
  transparent := s.transparentProxy
  socks5 := s.socksProxy
  reverse := s.reverseProxy
  upstream := s.upstreamProxy
  httpFormIn := s.httpFormIn
  httpFormOut := s.httpFormOut
  sslPorts := s.sslPorts

/-- The settings that ask for authentication (`auth_options`). -/
def authOptions (s : Settings) : AuthOptions where
  nonanonymous := s.authNonanonymous
  singleuser := s.authSingleuser
  htpasswd := s.authHtpasswd

/-- Refuse requests of which only one may be made. -/
def validateFlags (requested : List Flag) : Traced Unit :=
  if 1 < requested.length then do
    .log .warn "Conflicting options requested"
      [("options", Text.bracketed (requested.map fun f ↦ Text.quoted f.name))]
    .refuse (.mutuallyExclusive requested)
  else return ()

/-- Refuse more than one mode, and then more than one way to authenticate. -/
def validate (s : Settings) : Traced Unit := do
  validateFlags s.modeOptions.requested
  validateFlags s.authOptions.requested

end Settings

end ProxySettings
