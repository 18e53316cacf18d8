import ProxySettings.Text.Blank
import ProxySettings.World.Home

/-!
# Certificate specifications

A specification `[domain=]path` names a file and the domains that it serves. In the proxy these are
`parse` of `CertSpec` and `load_cert_specs`.
-/

namespace ProxySettings

/-- A pattern of domains with the file that serves them. -/
structure CertSpec where
  domain : String
  path : String
  deriving Repr, DecidableEq

namespace CertSpec

/-- The pattern of all domains. -/
def anyDomain : String := "*"

/-- The two sides of a specification, as they are written. -/
def sides (text : String) : String × String := (Text.cut '=' text).getD (anyDomain, text)

/-- Read a specification. The first `=` ends the domain, and neither side is empty. -/
def parse (w : World) (text : String) : Except ConfigError CertSpec :=
  let (domain, path) := sides text
  if domain.isEmpty ∨ path.isEmpty then .error (.invalidFormat .certSpec text)
  else (w.expandUser path).map fun path ↦ ⟨domain, path⟩

/-- Read a specification of a file that exists. -/
def load (w : World) (text : String) : Except ConfigError CertSpec :=
  match parse w text with
  | .error e => .error e
  | .ok spec =>
    if w.doesExist spec.path then .ok spec else .error (.fileNotFound .certificate spec.path)

/-- Read specifications in order, up to the first refusal (`load_cert_specs`). -/
def loadAll (w : World) (texts : List String) : Except ConfigError (List CertSpec) :=
  texts.mapM (load w)

end CertSpec

end ProxySettings
