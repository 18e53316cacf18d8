import ProxySettings.Auth.Authenticator
import ProxySettings.Mode
import ProxySettings.World.Home

/-!
# Choosing an authenticator

The options that ask for authentication, and the authenticator that they choose. In the proxy these
are `AuthOptions` and `select_authenticator`.
-/

namespace ProxySettings

/-- The options that ask for authentication. -/
structure AuthOptions where
  nonanonymous : Bool
  singleuser : Option String
  htpasswd : Option String
  deriving Repr, DecidableEq

namespace AuthOptions

/-- The realm of the challenge (`DEFAULT_REALM`). -/
def realm : String := "mitmproxy"

/-- The single user, if one is given (`singleuser_spec`). -/
def singleuserSpec (o : AuthOptions) : Option String := nonEmpty o.singleuser

/-- The path of a file of credentials, if one is given (`htpasswd_path`). -/
def htpasswdPath (o : AuthOptions) : Option String := nonEmpty o.htpasswd

/-- The ways that are asked for, in a fixed order. -/
def requested (o : AuthOptions) : List Flag :=
  [(o.nonanonymous, .nonanonymous), (o.singleuserSpec.isSome, .singleuser),
    (o.htpasswdPath.isSome, .htpasswd)].filterMap fun (isSet, flag) ↦
      if isSet then some flag else none

/-- The manager that is asked for. A single user comes first, then any named user, then a file. -/
def manager? (o : AuthOptions) (w : World) : Traced (Option PasswordManager) :=
  match o.singleuserSpec with
  | some spec => do return some (.singleUser (← SingleUser.parse spec))
  | none =>
    if o.nonanonymous then return some .nonAnonymous
    else
      match o.htpasswdPath with
      | some path => do return some (.htpasswd (← Htpasswd.load w (← w.expandUser path)))
      | none => return none

/-- Choose the authenticator (`select_authenticator`). -/
def select (o : AuthOptions) (w : World) : Traced Authenticator := do
  match ← o.manager? w with
  | none =>
    .log .info "Proxy authentication disabled" [("backend", AuthBackend.disabled.text)]
    return .disabled
  | some manager =>
    .log .info "Proxy authentication enabled"
      [("backend", manager.backend.text), ("realm", Text.quoted realm)]
    return .basic (← BasicAuth.ofRealm manager realm)

end AuthOptions

end ProxySettings
