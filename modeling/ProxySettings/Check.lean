import ProxySettings.Config

/-!
# Checking settings

A check resolves settings for this machine and reports what they resolved to. In the proxy this is
`run_config_check`.
-/

namespace ProxySettings.Check

/-- A line of a report. -/
def info (message : String) : Event := ⟨.info, message, []⟩

/-- A line of a report that warns. -/
def warn (message : String) : Event := ⟨.warn, message, []⟩

/-- What a report says about the mode beyond its kind and forms. -/
def modeLines (mode : ProxyMode) : List Event :=
  match mode with
  | .regular _ => []
  | .transparent _ _ ports => [info ("  SSL ports: " ++ ProxyMode.describePorts ports)]
  | .socks5 _ ports => [info ("  SSL ports: " ++ ProxyMode.describePorts ports)]
  | .reverse _ server => [info ("  Reverse target: " ++ server.text)]
  | .upstream _ server => [info ("  Upstream proxy: " ++ server.text)]

/-- The line of the patterns for one kind of bypass. -/
def patternLine (what : String) (m : HostMatcher) : Event :=
  info (what ++ " patterns: " ++ Text.bracketed (m.texts.map Text.quoted))

/-- A warning of the authority's missing certificate, and a line for each entry of the store. -/
def certLines (c : Config) : List Event :=
  (if c.certstore.ca.isNone then [warn ("No CA certificate found in " ++ c.cadir)] else []) ++
    c.certstore.entries.map fun e ↦ info ("  " ++ e.domain ++ " -> " ++ e.path)

/-- A warning of a label that admits SSL, for one side. -/
def insecureLine (side label : String) : Except ConfigError (List Event) := do
  let version ← TlsVersion.ofLabel label
  if version.isInsecure then
    return [warn ("SSL version '" ++ version.label ++ "' for " ++ side ++
      " connections is INSECURE")]
  else return []

/-- The lines of a report down to the certificates. -/
def settingLines (c : Config) : List Event :=
  let host := if c.host.isEmpty then "*" else c.host
  let limit := match c.bodySizeLimit with
    | some n => toString n ++ " bytes"
    | none => "unlimited"
  [info ("Listen address: " ++ host ++ ":" ++ toString c.port.toNat),
    info ("Mode: " ++ c.mode.kind.text),
    info ("  HTTP form in/out: " ++ c.mode.forms.incoming.text ++ "/" ++
      c.mode.forms.outgoing.text)] ++
  modeLines c.mode ++
  [info ("Authentication: " ++ c.authenticator.backend.text),
    info ("Body size limit: " ++ limit),
    patternLine "Ignore" c.ignore,
    patternLine "TCP" c.tcp,
    info ("Certificate directory: " ++ c.cadir)] ++
  certLines c

/-- Resolve settings and report what they resolved to (`run_config_check`). -/
def run (w : World) (s : Settings) : Traced Config := do
  .log .info "Running configuration check..." []
  let c ← Config.resolve w s (some .platform)
  ⟨settingLines c, .ok ()⟩
  let client ← insecureLine "client" s.sslVersionClient
  ⟨client, .ok ()⟩
  let server ← insecureLine "server" s.sslVersionServer
  ⟨server, .ok ()⟩
  .log .info ("SSL policy client=" ++ c.tls.client.describe ++ " server=" ++
    c.tls.server.describe) []
  .log .info "Configuration OK" []
  return c

end ProxySettings.Check
