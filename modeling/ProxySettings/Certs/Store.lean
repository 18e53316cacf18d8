import ProxySettings.Certs.Entry

/-!
# The certificate store

The store holds the entries that were added, in order, and the certificate of the authority that
signs for all other domains. A domain is served by the entry with the most specific pattern. In the
proxy this is `CertStore`.
-/

namespace ProxySettings

/-- Entries for domains, and the authority's certificate if there is one. -/
structure CertStore where
  cadir : String
  basename : String
  ca : Option CertEntry
  entries : List CertEntry
  deriving Repr, DecidableEq

namespace CertStore

/-- The file of the authority's certificate. -/
def caPath (cadir basename : String) : String := World.join cadir (basename ++ "-ca.pem")

/-- The store of a directory, with the authority's certificate if its file is there
(`from_store`). -/
def ofDir (w : World) (cadir basename : String) : Traced CertStore := do
  let path := caPath cadir basename
  if w.isFile path then
    .log .debug "Loading CA certificate" [("path", path)]
    return ⟨cadir, basename, some (← CertEntry.load w CertSpec.anyDomain path), []⟩
  else
    .log .debug "No CA certificate on disk, leaving generation to the TLS engine" [("path", path)]
    return ⟨cadir, basename, none, []⟩

/-! ## Adding -/

/-- A store after changes, up to the first one that failed, with the events of those that did
not. -/
structure Change where
  store : CertStore
  events : List Event
  fault : Option ConfigError

/-- The event of an added entry; the domain is as it was given. -/
def addedEvent (spec : CertSpec) (entry : CertEntry) : Event :=
  ⟨.debug, "Added certificate to store",
    [("domain", Text.quoted spec.domain), ("path", spec.path),
      ("chain_len", toString entry.chain.length), ("has_key", toString entry.key.isSome)]⟩

/-- Add the entries of files in order. The first one that cannot be loaded ends the change
(`add_specs`). -/
def addAll (s : CertStore) (w : World) : List CertSpec → Change
  | [] => ⟨s, [], none⟩
  | spec :: specs =>
    match CertEntry.load w spec.domain spec.path with
    | .error e => ⟨s, [], some e⟩
    | .ok entry =>
      let rest := addAll { s with entries := s.entries ++ [entry] } w specs
      { rest with events := addedEvent spec entry :: rest.events }

/-- Add the entry of one file (`add_cert_file`). -/
def add (s : CertStore) (w : World) (domain path : String) : Change := s.addAll w [⟨domain, path⟩]

/-- A change as a step of a computation that a fault ends. -/
def Change.traced (c : Change) : Traced CertStore :=
  ⟨c.events, match c.fault with
    | none => .ok c.store
    | some e => .error e⟩

/-! ## Looking up -/

/-- The patterns for all domains below those that a list of characters is in, narrow ones first. -/
def wildcards : List Char → List String
  | [] => []
  | c :: rest =>
    if c = '.' then String.ofList ('*' :: '.' :: rest) :: wildcards rest else wildcards rest

/-- The patterns that serve a domain, the most specific one first (`lookup_forms`). -/
def lookupForms (domain : String) : List String :=
  domain :: wildcards domain.toList ++ [CertSpec.anyDomain]

/-- The entry that serves a domain. Of entries with one pattern the first one serves
(`get_cert`). -/
def get? (s : CertStore) (domain : String) : Option CertEntry :=
  (lookupForms (Text.asciiLower domain)).findSome? fun form ↦ s.entries.find? (·.domain == form)

end CertStore

end ProxySettings
