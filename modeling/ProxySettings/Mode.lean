import ProxySettings.Destination
import ProxySettings.Log
import ProxySettings.ServerSpec

/-!
# Routing modes

A proxy routes in exactly one mode. The mode says how request targets are written on either side and
how the real destination of a request is found. In the proxy these are `HttpForm`, `ProxyMode`,
`ModeOptions` and `resolve_mode`.
-/

namespace ProxySettings

/-- How a request target is written: the path, the whole address, or host and port. -/
inductive HttpForm where
  | relative
  | absolute
  | authority
  deriving Repr, DecidableEq

namespace HttpForm

/-- The text of a form. -/
def text : HttpForm → String
  | relative => "relative"
  | absolute => "absolute"
  | authority => "authority"

/-- The name of a form in reports. -/
def name : HttpForm → String
  | relative => "Relative"
  | absolute => "Absolute"
  | authority => "Authority"

/-- Read a form; case counts. -/
def parse (text : String) : Except ConfigError HttpForm :=
  match [relative, absolute, authority].find? (·.text == text) with
  | some form => .ok form
  | none => .error (.invalidFormat .httpForm text)

end HttpForm

/-- The forms of targets that come in and go out. -/
structure HttpForms where
  incoming : HttpForm
  outgoing : HttpForm
  deriving Repr, DecidableEq

/-- A pair of forms in reports. -/
def HttpForms.describe (f : HttpForms) : String :=
  "HttpForms \x7b form_in: " ++ f.incoming.name ++ ", form_out: " ++ f.outgoing.name ++ " \x7d"

/-- The kinds of modes. -/
inductive ModeKind where
  | regular
  | transparent
  | socks5
  | reverse
  | upstream
  deriving Repr, DecidableEq

namespace ModeKind

/-- The text of a kind. -/
def text : ModeKind → String
  | regular => "regular"
  | transparent => "transparent"
  | socks5 => "socks5"
  | reverse => "reverse"
  | upstream => "upstream"

/-- The forms of a kind unless others are asked for (`default_forms`). -/
def defaultForms : ModeKind → HttpForms
  | regular => ⟨.absolute, .relative⟩
  | transparent => ⟨.relative, .relative⟩
  | socks5 => ⟨.relative, .relative⟩
  | reverse => ⟨.relative, .relative⟩
  | upstream => ⟨.absolute, .absolute⟩

end ModeKind

/-- A mode with what it needs to find destinations. -/
inductive ProxyMode where
  | regular (forms : HttpForms)
  | transparent (forms : HttpForms) (resolver : Resolver) (sslPorts : List UInt16)
  | socks5 (forms : HttpForms) (sslPorts : List UInt16)
  | reverse (forms : HttpForms) (server : ServerSpec)
  | upstream (forms : HttpForms) (server : ServerSpec)

namespace ProxyMode

/-- The kind of a mode. -/
def kind : ProxyMode → ModeKind
  | regular .. => .regular
  | transparent .. => .transparent
  | socks5 .. => .socks5
  | reverse .. => .reverse
  | upstream .. => .upstream

/-- The forms of a mode. -/
def forms : ProxyMode → HttpForms
  | regular forms => forms
  | transparent forms _ _ => forms
  | socks5 forms _ => forms
  | reverse forms _ => forms
  | upstream forms _ => forms

/-- The fixed server of a mode. -/
def server? : ProxyMode → Option ServerSpec
  | reverse _ server => some server
  | upstream _ server => some server
  | _ => none

/-- The ports that a mode takes to carry TLS. -/
def sslPorts? : ProxyMode → Option (List UInt16)
  | transparent _ _ sslPorts => some sslPorts
  | socks5 _ sslPorts => some sslPorts
  | _ => none

/-- Where a redirected connection is headed in transparent mode (`original_destination`). -/
def destination? (mode : ProxyMode) (connection : Connection) :
    Option (Except ResolverFault Destination) :=
  match mode with
  | transparent _ resolver sslPorts =>
    some ((resolver.address connection).map fun address ↦
      ⟨address, sslPorts.contains address.port⟩)
  | _ => none

/-- A list of ports in reports. -/
def describePorts (ports : List UInt16) : String :=
  Text.bracketed (ports.map fun p ↦ toString p.toNat)

private def report (name mode : String) (fields : List String) : String :=
  name ++ "(" ++ mode ++ " \x7b " ++ ", ".intercalate fields ++ " \x7d)"

/-- A mode in reports; a resolver is not shown. -/
def describe : ProxyMode → String
  | regular forms => report "Regular" "RegularMode" ["forms: " ++ forms.describe]
  | transparent forms _ ports =>
    report "Transparent" "TransparentMode"
      ["forms: " ++ forms.describe, "ssl_ports: " ++ describePorts ports, ".."]
  | socks5 forms ports =>
    report "Socks5" "Socks5Mode"
      ["forms: " ++ forms.describe, "ssl_ports: " ++ describePorts ports]
  | reverse forms server =>
    report "Reverse" "ReverseMode" ["forms: " ++ forms.describe, "server: " ++ server.describe]
  | upstream forms server =>
    report "Upstream" "UpstreamMode" ["forms: " ++ forms.describe, "server: " ++ server.describe]

end ProxyMode

/-- A text that was given and is not empty (`non_empty`). -/
def nonEmpty (text : Option String) : Option String := text.filter (· ≠ "")

/-- The options that choose a mode. -/
structure ModeOptions where
  transparent : Bool
  socks5 : Bool
  reverse : Option String
  upstream : Option String
  httpFormIn : Option String
  httpFormOut : Option String
  sslPorts : List UInt16
  deriving Repr, DecidableEq

namespace ModeOptions

/-- The target of reverse mode, if one is given (`reverse_target`). -/
def reverseTarget (o : ModeOptions) : Option String := nonEmpty o.reverse

/-- The target of upstream mode, if one is given (`upstream_target`). -/
def upstreamTarget (o : ModeOptions) : Option String := nonEmpty o.upstream

/-- The modes that are asked for, in a fixed order. -/
def requested (o : ModeOptions) : List Flag :=
  [(o.transparent, .transparent), (o.socks5, .socks), (o.reverseTarget.isSome, .reverse),
    (o.upstreamTarget.isSome, .upstream)].filterMap fun (isSet, flag) ↦
      if isSet then some flag else none

/-- A form that is asked for; an empty text asks for none (`parse_form_override`). -/
def formOverride (text : Option String) : Except ConfigError (Option HttpForm) :=
  match nonEmpty text with
  | none => .ok none
  | some text => (HttpForm.parse text).map some

/-- The kind of mode that is asked for. -/
def kind (o : ModeOptions) : ModeKind :=
  if o.transparent then .transparent
  else if o.socks5 then .socks5
  else if o.reverseTarget.isSome then .reverse
  else if o.upstreamTarget.isSome then .upstream
  else .regular

/-- The mode of a kind with some forms. -/
def build (o : ModeOptions) (resolver : Option Resolver) (forms : HttpForms) :
    Except ConfigError ProxyMode :=
  match o.kind with
  | .regular => .ok (.regular forms)
  | .transparent =>
    match resolver with
    | some resolver => .ok (.transparent forms resolver o.sslPorts)
    | none => .error .transparentUnsupported
  | .socks5 => .ok (.socks5 forms o.sslPorts)
  | .reverse => (ServerSpec.parse (o.reverseTarget.getD "")).map (.reverse forms)
  | .upstream => (ServerSpec.parse (o.upstreamTarget.getD "")).map (.upstream forms)

/-- Choose the mode. More than one request is refused first, then a bad form, then what the mode
itself lacks (`resolve_mode`). -/
def resolve (o : ModeOptions) (resolver : Option Resolver) : Traced ProxyMode := do
  if 1 < o.requested.length then Traced.refuse (.mutuallyExclusive o.requested)
  let incoming ← formOverride o.httpFormIn
  let outgoing ← formOverride o.httpFormOut
  let defaults := o.kind.defaultForms
  let forms : HttpForms := ⟨incoming.getD defaults.incoming, outgoing.getD defaults.outgoing⟩
  let mode ← o.build resolver forms
  .log .info "Selected proxy mode"
    [("mode", o.kind.text), ("http_form_in", forms.incoming.text),
      ("http_form_out", forms.outgoing.text),
      ("server", Text.optional (mode.server?.map fun s ↦ Text.quoted s.text))]
  return mode

end ModeOptions

end ProxySettings
