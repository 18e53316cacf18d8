import ProxySettings.Certs.Spec
import ProxySettings.Log

/-!
# Certificates

A certificate file holds a chain of certificates, the leaf first, and possibly a private key. In the
proxy this is `CertEntry`.
-/

namespace ProxySettings

/-- The encodings of private keys. -/
inductive KeyKind where
  | pkcs1
  | sec1
  | pkcs8
  deriving Repr, DecidableEq

namespace KeyKind

/-- The name of an encoding. -/
def name : KeyKind → String
  | pkcs1 => "pkcs1"
  | sec1 => "sec1"
  | pkcs8 => "pkcs8"

/-- The encoding that a section's kind names. -/
def ofSection? : Pem.Kind → Option KeyKind
  | .pkcs1Key => some pkcs1
  | .sec1Key => some sec1
  | .pkcs8Key => some pkcs8
  | _ => none

end KeyKind

/-- A private key. -/
structure PrivateKey where
  kind : KeyKind
  bytes : List UInt8
  deriving Repr, DecidableEq

/-- The certificates of a file, for the domains that it serves. The domain is in lower case. -/
structure CertEntry where
  domain : String
  path : String
  leaf : List UInt8
  issuers : List (List UInt8)
  key : Option PrivateKey
  deriving Repr, DecidableEq

namespace CertEntry

/-- The certificates of an entry, the leaf first. -/
def chain (e : CertEntry) : List (List UInt8) := e.leaf :: e.issuers

/-- The certificates among some sections, in order. -/
def certificates (sections : List Pem.Section) : List (List UInt8) :=
  sections.filterMap fun s ↦ if s.kind = .certificate then some s.content else none

/-- The first private key among some sections. -/
def privateKey? (sections : List Pem.Section) : Option PrivateKey :=
  sections.findSome? fun s ↦ (KeyKind.ofSection? s.kind).map (⟨·, s.content⟩)

/-- The entry of a PEM text. -/
def ofPem (domain path : String) (bytes : List UInt8) : Except Pem.Fault CertEntry :=
  match Pem.sections bytes with
  | .error fault => .error fault
  | .ok sections =>
    match certificates sections with
    | [] => .error .noCertificate
    | leaf :: issuers =>
      .ok ⟨Text.asciiLower domain, path, leaf, issuers, privateKey? sections⟩

/-- Load the entry of a file. -/
def load (w : World) (domain path : String) : Except ConfigError CertEntry :=
  match w.read path with
  | .error fault => .error (.io fault)
  | .ok (.error fault) => .error (.certificate path (.unreadable fault))
  | .ok (.ok bytes) => (ofPem domain path bytes).mapError (.certificate path)

end CertEntry

end ProxySettings
