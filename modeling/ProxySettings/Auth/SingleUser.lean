import ProxySettings.Auth.Credentials
import ProxySettings.Error

/-!
# A single user

The user and the password that an option names, in the form `username:password`. In the proxy this
is `PassManSingleUser`.
-/

namespace ProxySettings.SingleUser

/-- Read a specification: it has exactly one colon (`from_spec`). -/
def parse (spec : String) : Except ConfigError Credentials :=
  match Text.splitOnAll (· == ':') spec.toList with
  | [user, password] => .ok ⟨String.ofList user, String.ofList password⟩
  | _ => .error (.invalidFormat .singleUser spec)

/-- A single user in reports; the password is not shown. -/
def describe (known : Credentials) : String :=
  "PassManSingleUser \x7b username: " ++ Text.quoted known.user ++
    ", password: \"<redacted>\" \x7d"

end ProxySettings.SingleUser
