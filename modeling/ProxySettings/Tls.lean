import ProxySettings.Log

/-!
# Protocol policies

A label names the protocol versions of one side of the proxy. It resolves to a policy: the method
that opens a connection, and the old protocols that are switched off. In the proxy these are
`TlsVersion`, `TlsPolicy` and `TlsPolicies`.
-/

namespace ProxySettings

/-- The labels for protocol versions. -/
inductive TlsVersion where
  | all
  | secure
  | sslV2
  | sslV3
  | tlsV1
  | tlsV1_1
  | tlsV1_2
  deriving Repr, DecidableEq

namespace TlsVersion

/-- The labels in the order in which they are offered. -/
def choices : List TlsVersion := [all, secure, sslV2, sslV3, tlsV1, tlsV1_1, tlsV1_2]

/-- The text of a label. -/
def label : TlsVersion → String
  | all => "all"
  | secure => "secure"
  | sslV2 => "SSLv2"
  | sslV3 => "SSLv3"
  | tlsV1 => "TLSv1"
  | tlsV1_1 => "TLSv1_1"
  | tlsV1_2 => "TLSv1_2"

/-- The name of a label in reports. -/
def name : TlsVersion → String
  | all => "All"
  | secure => "Secure"
  | sslV2 => "SslV2"
  | sslV3 => "SslV3"
  | tlsV1 => "TlsV1"
  | tlsV1_1 => "TlsV1_1"
  | tlsV1_2 => "TlsV1_2"

/-- The label of a text; case counts. -/
def ofLabel (text : String) : Except ConfigError TlsVersion :=
  match choices.find? (·.label == text) with
  | some v => .ok v
  | none => .error (.invalidTlsVersion text)

/-- The label admits a handshake of SSL version 2 or 3 (`is_insecure`). -/
def isInsecure : TlsVersion → Bool
  | all | sslV2 | sslV3 => true
  | _ => false

end TlsVersion

/-- The methods that open a connection: negotiation, or one version. -/
inductive TlsMethod where
  | negotiate
  | sslV2
  | sslV3
  | tlsV1
  | tlsV1_1
  | tlsV1_2
  deriving Repr, DecidableEq

/-- The name of a method in reports. -/
def TlsMethod.name : TlsMethod → String
  | negotiate => "Negotiate"
  | sslV2 => "SslV2"
  | sslV3 => "SslV3"
  | tlsV1 => "TlsV1"
  | tlsV1_1 => "TlsV1_1"
  | tlsV1_2 => "TlsV1_2"

/-- A set of protocols to switch off, as the bits of a mask. -/
structure TlsOptions where
  bits : UInt64
  deriving Repr, DecidableEq

namespace TlsOptions

/-- Switch off SSL version 2. -/
def noSslV2 : TlsOptions := ⟨0x1000000⟩

/-- Switch off SSL version 3. -/
def noSslV3 : TlsOptions := ⟨0x2000000⟩

/-- Everything that either mask switches off. -/
def union (a b : TlsOptions) : TlsOptions := ⟨a.bits ||| b.bits⟩

/-- All that the other mask switches off is switched off here too. -/
def contains (a b : TlsOptions) : Bool := a.bits &&& b.bits == b.bits

end TlsOptions

/-- How one side of the proxy opens connections. -/
structure TlsPolicy where
  method : TlsMethod
  options : Option TlsOptions
  deriving Repr, DecidableEq

namespace TlsPolicy

/-- The policy of a label. "Secure" is negotiation without SSL (`resolve` of `TlsPolicy`). -/
def ofVersion : TlsVersion → TlsPolicy
  | .all => ⟨.negotiate, none⟩
  | .secure => ⟨.negotiate, some (.union .noSslV2 .noSslV3)⟩
  | .sslV2 => ⟨.sslV2, none⟩
  | .sslV3 => ⟨.sslV3, none⟩
  | .tlsV1 => ⟨.tlsV1, none⟩
  | .tlsV1_1 => ⟨.tlsV1_1, none⟩
  | .tlsV1_2 => ⟨.tlsV1_2, none⟩

/-- The policy of a label's text. -/
def ofLabel (text : String) : Except ConfigError TlsPolicy :=
  (TlsVersion.ofLabel text).map ofVersion

/-- The policy switches protocols off. -/
def disables (p : TlsPolicy) (options : TlsOptions) : Bool := p.options.any (·.contains options)

/-- The versions that a current TLS library speaks under the policy, newest first. -/
def supportedVersions (p : TlsPolicy) : List String :=
  match p.method with
  | .negotiate => ["TLSv1_3", "TLSv1_2"]
  | .tlsV1_2 => ["TLSv1_2"]
  | _ => []

/-- A policy in reports. -/
def describe (p : TlsPolicy) : String :=
  "TlsPolicy \x7b method: " ++ p.method.name ++ ", options: " ++
    Text.optional (p.options.map fun o ↦ "TlsOptions(" ++ toString o.bits.toNat ++ ")") ++ " \x7d"

end TlsPolicy

/-- The policies of both sides. -/
structure TlsPolicies where
  client : TlsPolicy
  server : TlsPolicy
  deriving Repr, DecidableEq

namespace TlsPolicies

/-- The policies when nothing is asked for. -/
def default : TlsPolicies := ⟨.ofVersion .secure, .ofVersion .secure⟩

/-- The policies of two labels, the client's first. -/
def resolve (client server : String) : Traced TlsPolicies := do
  let client ← TlsPolicy.ofLabel client
  let server ← TlsPolicy.ofLabel server
  .log .debug "Resolved SSL/TLS policies"
    [("client", client.describe), ("server", server.describe)]
  return ⟨client, server⟩

end TlsPolicies

end ProxySettings
