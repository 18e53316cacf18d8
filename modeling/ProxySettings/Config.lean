import ProxySettings.Certs.Store
import ProxySettings.HostMatcher
import ProxySettings.Settings.Basic
import ProxySettings.Settings.Size

/-!
# The configuration

Settings resolve to a configuration: everything that serving a connection needs to know. Resolving
goes through the settings in a fixed order and ends with the first refusal. In the proxy this is
`from_options_with_resolver` of `ProxyConfig`.
-/

namespace ProxySettings

/-- A resolved configuration (`ProxyConfig`). -/
structure Config where
  host : String
  port : UInt16
  ciphersClient : Option String
  ciphersServer : Option String
  clientcerts : Option String
  noUpstreamCert : Bool
  bodySizeLimit : Option Nat
  mode : ProxyMode
  ignore : HostMatcher
  tcp : HostMatcher
  authenticator : Authenticator
  cadir : String
  certstore : CertStore
  certforward : Bool
  tls : TlsPolicies
  sslPorts : List UInt16

namespace Config

/-- The name and the version under which the proxy presents itself (`NAMEVERSION`). -/
def serverVersion : String := "mitm-proxy-config 0.1.0"

/-- The first part of the name of the authority's certificate file (`CONF_BASENAME`). -/
def certBasename : String := "mitmproxy"

/-- A path has to lead to a directory (`require_dir`). -/
def requireDir (w : World) (what : Resource) (path : String) : Except ConfigError Unit :=
  if !w.doesExist path then .error (.fileNotFound what path)
  else if !w.isDir path then .error (.notADirectory what path)
  else .ok ()

/-- The limit of a body's size, if there is one. -/
def sizeLimit (text : Option String) : Except ConfigError (Option Nat) :=
  match text with
  | some text => Size.parse text
  | none => .ok none

/-- The directory of client certificates, if one is given. -/
def clientCertDir (w : World) (text : Option String) : Except ConfigError (Option String) :=
  match text with
  | none => .ok none
  | some text => do
    let dir ← w.expandUser text
    requireDir w .clientCerts dir
    return some dir

/-- The event of a resolved configuration. -/
def resolvedEvent (c : Config) : Event :=
  ⟨.info, "Proxy configuration resolved",
    [("host", c.host), ("port", toString c.port.toNat), ("mode", c.mode.kind.text),
      ("auth", c.authenticator.backend.text), ("certs", toString c.certstore.entries.length),
      ("ignore_patterns", toString c.ignore.patterns.length),
      ("tcp_patterns", toString c.tcp.patterns.length)]⟩

/-- Resolve settings; in transparent mode a resolver finds destinations
(`from_options_with_resolver`). -/
def resolve (w : World) (s : Settings) (resolver : Option Resolver) : Traced Config := do
  s.validate
  let bodySizeLimit ← sizeLimit s.bodySizeLimit
  let mode ← s.modeOptions.resolve resolver
  let clientcerts ← clientCertDir w s.clientcerts
  let authenticator ← s.authOptions.select w
  let certs ← CertSpec.loadAll w s.certs
  let ignore ← HostMatcher.ofTexts s.ignoreHosts
  let tcp ← HostMatcher.ofTexts s.tcpHosts
  let cadir ← w.absolute s.cadir
  let empty ← CertStore.ofDir w cadir certBasename
  let certstore ← (empty.addAll w certs).traced
  let tls ← TlsPolicies.resolve s.sslVersionClient s.sslVersionServer
  let config : Config := {
    host := s.addr
    port := s.port
    ciphersClient := s.ciphersClient
    ciphersServer := s.ciphersServer
    clientcerts := clientcerts
    noUpstreamCert := s.noUpstreamCert
    bodySizeLimit := bodySizeLimit
    mode := mode
    ignore := ignore
    tcp := tcp
    authenticator := authenticator
    cadir := cadir
    certstore := certstore
    certforward := s.certforward
    tls := tls
    sslPorts := s.sslPorts }
  ⟨[config.resolvedEvent], .ok ()⟩
  return config

end Config

end ProxySettings
