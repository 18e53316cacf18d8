import ProxySettings.Auth.Htpasswd
import ProxySettings.Auth.SingleUser
import ProxySettings.Header

/-!
# Authentication of clients

Every request passes an authenticator before it is served. It lets all requests through, or it asks
for a user and a password and compares them with what it knows. In the proxy these are
`Authenticator` and `PasswordManager`, with what implements them.
-/

namespace ProxySettings

/-- The ways to authenticate. -/
inductive AuthBackend where
  | disabled
  | nonAnonymous
  | singleUser
  | htpasswd
  deriving Repr, DecidableEq

namespace AuthBackend

/-- The text of a backend. -/
def text : AuthBackend → String
  | disabled => "none"
  | nonAnonymous => "nonanonymous"
  | singleUser => "singleuser"
  | htpasswd => "htpasswd"

/-- The name of a backend in reports. -/
def name : AuthBackend → String
  | disabled => "Null"
  | nonAnonymous => "NonAnonymous"
  | singleUser => "SingleUser"
  | htpasswd => "Htpasswd"

end AuthBackend

/-- What passwords are compared with: nothing, if any named user will do (`PassManNonAnon`,
`PassManSingleUser` and `PassManHtpasswd`). -/
inductive PasswordManager where
  | nonAnonymous
  | singleUser (known : Credentials)
  | htpasswd (file : Htpasswd)
  deriving Repr, DecidableEq

namespace PasswordManager

/-- The way of a manager. -/
def backend : PasswordManager → AuthBackend
  | nonAnonymous => .nonAnonymous
  | singleUser _ => .singleUser
  | htpasswd _ => .htpasswd

/-- The answer to a user's password. -/
def test (m : PasswordManager) (given : Credentials) : Verdict :=
  match m with
  | nonAnonymous => .ofBool (!given.user.isEmpty)
  | singleUser known => .ofBool (given == known)
  | htpasswd file => file.test given.user given.password

/-- A manager in reports. -/
def describe : PasswordManager → String
  | nonAnonymous => "PassManNonAnon"
  | singleUser known => SingleUser.describe known
  | htpasswd file => file.describe

end PasswordManager

/-- Authentication with a challenge: the value that asks a client for credentials
(`BasicProxyAuth`). -/
structure BasicAuth where
  manager : PasswordManager
  challenge : List UInt8
  deriving Repr, DecidableEq

namespace BasicAuth

/-- The challenge of a realm. -/
def challengeText (realm : String) : String := "Basic realm=\"" ++ realm ++ "\""

/-- Authentication for a realm; the challenge has to be allowed as a value (`new` of
`BasicProxyAuth`). -/
def ofRealm (manager : PasswordManager) (realm : String) : Except ConfigError BasicAuth :=
  let challenge := Utf8.encode (challengeText realm)
  if challenge.all Header.isValueByte then .ok ⟨manager, challenge⟩
  else .error (.invalidFormat .realm realm)

/-- The credentials that a request carries in the first field for them. -/
def credentials? (headers : Headers) : Option Credentials := do
  Credentials.ofValue? (← (← headers.first? Header.proxyAuthorization).text?)

end BasicAuth

/-- What a request has to pass (`NullProxyAuth` and `BasicProxyAuth`). -/
inductive Authenticator where
  | disabled
  | basic (auth : BasicAuth)
  deriving Repr, DecidableEq

namespace Authenticator

/-- The way of an authenticator. -/
def backend : Authenticator → AuthBackend
  | disabled => .disabled
  | basic auth => auth.manager.backend

/-- The answer to a request. -/
def authenticate (a : Authenticator) (headers : Headers) : Verdict :=
  match a with
  | disabled => .accepted
  | basic auth =>
    match BasicAuth.credentials? headers with
    | some given => auth.manager.test given
    | none => .rejected

/-- The fields that ask a client for credentials (`challenge_headers`). -/
def challenge : Authenticator → Headers
  | disabled => []
  | basic auth => [⟨Header.proxyAuthenticate, auth.challenge⟩]

/-- The fields of a request without its credentials. -/
def clean (a : Authenticator) (headers : Headers) : Headers :=
  match a with
  | disabled => headers
  | basic _ => headers.without Header.proxyAuthorization

/-- An authenticator in reports. -/
def describe : Authenticator → String
  | disabled => "NullProxyAuth"
  | basic auth =>
    "BasicProxyAuth \x7b manager: " ++ auth.manager.describe ++ ", backend: " ++
      auth.manager.backend.name ++ ", challenge: " ++ Header.describeValue auth.challenge ++ " \x7d"

end Authenticator

end ProxySettings
