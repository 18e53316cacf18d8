import ProxySettings.Proofs.CertLookup
import ProxySettings.Proofs.ExclusiveChoice
import ProxySettings.Proofs.LoadedStore
import ProxySettings.Proofs.PathWalk
import ProxySettings.Proofs.PatternLists
import ProxySettings.Proofs.SizeText

/-!
# What a configuration says about the settings

Every part of a resolved configuration reflects the settings that it comes from, and no other part
of them: the two sides of the proxy are not confused, lists keep their order, and what is not asked
for is left out.
-/

namespace ProxySettings

/-- The parts of a configuration reflect the settings, the resolver and the world that it was
resolved from. -/
structure Config.Reflects (w : World) (s : Settings) (resolver : Option Resolver) (c : Config) :
    Prop where
  noLimit_iff : c.bodySizeLimit = none ↔
    ∀ text ∈ s.bodySizeLimit, ∀ ch ∈ text.toList, Text.isBlank ch = true
  limit : ∀ n ∈ c.bodySizeLimit, 1 ≤ n ∧ n ≤ 2 ^ 64 - 1 ∧
    ∃ text ∈ s.bodySizeLimit, Size.Denotes (Text.trimWhile Text.isBlank text.toList) n
  cadir_eq : w.absolute s.cadir = .ok c.cadir
  -- The system names the working directory by an absolute path.
  cadir_absolute : (∀ dir, w.workDir = .ok dir → World.isAbsolute dir = true) →
    World.isAbsolute c.cadir = true
  store_cadir_eq : c.certstore.cadir = c.cadir
  entries : List.Forall₂ (fun text entry ↦ (∃ path,
    w.expandUser (CertSpec.sides text).2 = .ok path ∧
      CertEntry.IsLoaded w (CertSpec.sides text).1 path entry) ∧ entry.chain ≠ [])
    s.certs c.certstore.entries
  authority_iff : c.certstore.ca.isSome = true ↔
    ∃ bytes, w.find (World.join c.cadir "mitmproxy-ca.pem") = .ok (.file bytes)
  clientcerts_iff : ∀ dir, c.clientcerts = some dir ↔
    ∃ given, s.clientcerts = some given ∧ w.expandUser given = .ok dir
  clientcerts_dir : ∀ dir ∈ c.clientcerts, w.find dir = .ok .dir
  kind_eq : c.mode.kind = s.modeOptions.kind
  server_iff : c.mode.server?.isSome = true ↔ c.mode.kind = .reverse ∨ c.mode.kind = .upstream
  sslPorts_eq : c.sslPorts = s.sslPorts
  mode_sslPorts : c.mode.sslPorts? =
    if c.mode.kind = .transparent ∨ c.mode.kind = .socks5 then some s.sslPorts else none
  destination : c.mode.kind = .transparent → ∃ r, resolver = some r ∧ ∀ connection,
    (∀ address, r.address connection = .ok address → ∃ tls,
      c.mode.destination? connection = some (.ok ⟨address, tls⟩) ∧
        (tls = true ↔ address.port ∈ s.sslPorts)) ∧
    ∀ fault, r.address connection = .error fault →
      c.mode.destination? connection = some (.error fault)
  ignore_texts : c.ignore.texts = s.ignoreHosts
  tcp_texts : c.tcp.texts = s.tcpHosts
  backend_eq : c.authenticator.backend = s.authOptions.deciding
  tls_client : ∃ v : TlsVersion, v.label = s.sslVersionClient ∧ c.tls.client = .ofVersion v
  tls_server : ∃ v : TlsVersion, v.label = s.sslVersionServer ∧ c.tls.server = .ofVersion v
  copied : c.host = s.addr ∧ c.port = s.port ∧ c.ciphersClient = s.ciphersClient ∧
    c.ciphersServer = s.ciphersServer ∧ c.noUpstreamCert = s.noUpstreamCert ∧
    c.certforward = s.certforward

/-! ## Size and directories -/

/-- There is no limit exactly if none is given, or a blank one. -/
theorem Config.sizeLimit_eq_ok_none_iff {text : Option String} : sizeLimit text = .ok none ↔
    ∀ t ∈ text, ∀ ch ∈ t.toList, Text.isBlank ch = true := by
  cases text with
  | none => simp [sizeLimit]
  | some t =>
    rw [sizeLimit, Size.parse_eq_ok_none_iff]
    simp

theorem Config.sizeLimit_eq_ok_some_iff {text : Option String} {n : Nat} :
    sizeLimit text = .ok (some n) ↔ ∃ t ∈ text,
      Size.Denotes (Text.trimWhile Text.isBlank t.toList) n ∧ 0 < n ∧ n < 2 ^ 64 := by
  cases text with
  | none => simp [sizeLimit]
  | some t =>
    rw [sizeLimit, Size.parse_eq_ok_some_iff]
    simp

/-- A path seen from a directory with an absolute path has an absolute path. -/
theorem World.isAbsolute_join {dir : String} (h : isAbsolute dir = true) (path : String) :
    isAbsolute (join dir path) = true := by
  obtain ⟨rest, hd⟩ : ∃ rest, dir.toList = '/' :: rest := by
    rw [isAbsolute, beq_iff_eq, List.head?_eq_some_iff] at h
    exact h
  rw [join]
  split
  · next hp => exact hp
  · split
    · rw [isAbsolute, String.toList_append, hd]
      rfl
    · rw [isAbsolute, String.toList_append, String.toList_append, hd]
      rfl

/-- An absolute path is expanded, and anchored in a working directory that is absolute. -/
theorem World.isAbsolute_of_absolute {w : World} {path dir : String}
    (hw : ∀ dir, w.workDir = .ok dir → isAbsolute dir = true) (h : w.absolute path = .ok dir) :
    isAbsolute dir = true := by
  obtain ⟨expanded, -, h⟩ := exists_of_bind_eq_ok h
  split at h
  · next ha =>
    obtain rfl := Except.ok.inj h
    exact ha
  · obtain ⟨work, hd, h⟩ := exists_of_bind_eq_ok h
    obtain rfl := Except.ok.inj h
    cases hk : w.workDir with
    | error fault =>
      rw [hk] at hd
      cases hd
    | ok work' =>
      rw [hk] at hd
      obtain rfl : work' = work := Except.ok.inj hd
      exact isAbsolute_join (hw _ hk) _

theorem Config.requireDir_eq_ok_iff {w : World} {what : Resource} {path : String} :
    requireDir w what path = .ok () ↔ w.find path = .ok .dir := by
  rw [requireDir, ← World.isDir_iff]
  cases he : w.doesExist path with
  | false =>
    have hn : w.isDir path = false := by
      rw [Bool.eq_false_iff, ne_eq, World.isDir_iff]
      intro hf
      rw [World.doesExist_iff.mpr ⟨_, hf⟩] at he
      cases he
    simp [hn]
  | true => cases w.isDir path <;> simp

/-- A directory is found exactly for a path that is given, and it is there. -/
theorem Config.of_clientCertDir {w : World} {text dir : Option String}
    (h : clientCertDir w text = .ok dir) :
    (∀ path, dir = some path ↔ ∃ given, text = some given ∧ w.expandUser given = .ok path) ∧
      ∀ path ∈ dir, w.find path = .ok .dir := by
  cases text with
  | none =>
    obtain rfl := Except.ok.inj h
    simp
  | some given =>
    obtain ⟨path, hp, h⟩ := exists_of_bind_eq_ok h
    obtain ⟨⟨⟩, hr, h⟩ := exists_of_bind_eq_ok h
    obtain rfl := Except.ok.inj h
    simpa [hp] using requireDir_eq_ok_iff.mp hr

/-! ## Mode -/

/-- A mode that was built has what its kind needs, and nothing else. -/
theorem ModeOptions.of_build {o : ModeOptions} {resolver : Option Resolver} {forms : HttpForms}
    {mode : ProxyMode} (h : o.build resolver forms = .ok mode) :
    (mode.server?.isSome = true ↔ mode.kind = .reverse ∨ mode.kind = .upstream) ∧
      (mode.sslPorts? =
        if mode.kind = .transparent ∨ mode.kind = .socks5 then some o.sslPorts else none) ∧
      (mode.kind = .transparent → ∃ r, resolver = some r ∧
        mode = .transparent forms r o.sslPorts) := by
  unfold build at h
  split at h
  · obtain rfl := Except.ok.inj h
    simp [ProxyMode.server?, ProxyMode.sslPorts?, ProxyMode.kind]
  · split at h
    · next r =>
      obtain rfl := Except.ok.inj h
      simp [ProxyMode.server?, ProxyMode.sslPorts?, ProxyMode.kind]
    · cases h
  · obtain rfl := Except.ok.inj h
    simp [ProxyMode.server?, ProxyMode.sslPorts?, ProxyMode.kind]
  · obtain ⟨server, -, rfl⟩ := exists_of_map_eq_ok h
    simp [ProxyMode.server?, ProxyMode.sslPorts?, ProxyMode.kind]
  · obtain ⟨server, -, rfl⟩ := exists_of_map_eq_ok h
    simp [ProxyMode.server?, ProxyMode.sslPorts?, ProxyMode.kind]

/-- The destination in transparent mode is the resolver's, with a mark for the ports of TLS. -/
theorem ProxyMode.destination?_transparent (forms : HttpForms) (r : Resolver)
    (ports : List UInt16) (connection : Connection) :
    (∀ address, r.address connection = .ok address → ∃ tls,
      (transparent forms r ports).destination? connection = some (.ok ⟨address, tls⟩) ∧
        (tls = true ↔ address.port ∈ ports)) ∧
    ∀ fault, r.address connection = .error fault →
      (transparent forms r ports).destination? connection = some (.error fault) := by
  rw [destination?]
  constructor
  · intro address h
    refine ⟨ports.contains address.port, ?_, List.contains_iff_mem⟩
    rw [h]
    rfl
  · intro fault h
    rw [h]
    rfl

/-! ## Labels -/

/-- A text is read as the label that it is. -/
theorem TlsVersion.ofLabel_eq_ok_iff {text : String} {v : TlsVersion} :
    ofLabel text = .ok v ↔ v.label = text := by
  constructor
  · intro h
    rw [ofLabel] at h
    split at h
    · next found hf =>
      obtain rfl := Except.ok.inj h
      have hl := List.find?_some hf
      exact eq_of_beq hl
    · cases h
  · rintro rfl
    cases v <;> rfl

theorem TlsPolicy.ofLabel_eq_ok_iff {text : String} {policy : TlsPolicy} :
    ofLabel text = .ok policy ↔ ∃ v : TlsVersion, v.label = text ∧ policy = .ofVersion v := by
  constructor
  · intro h
    obtain ⟨v, hv, rfl⟩ := exists_of_map_eq_ok h
    exact ⟨v, TlsVersion.ofLabel_eq_ok_iff.mp hv, rfl⟩
  · rintro ⟨v, hv, rfl⟩
    rw [ofLabel, TlsVersion.ofLabel_eq_ok_iff.mpr hv]
    rfl

theorem TlsPolicies.of_resolve {client server : String} {policies : TlsPolicies}
    (h : (resolve client server).result = .ok policies) :
    TlsPolicy.ofLabel client = .ok policies.client ∧
      TlsPolicy.ofLabel server = .ok policies.server := by
  rw [resolve] at h
  simp only [Traced.result_bind, Traced.result_lift, Traced.result_log] at h
  obtain ⟨c, hc, h⟩ := exists_of_bind_eq_ok h
  obtain ⟨s, hs, h⟩ := exists_of_bind_eq_ok h
  obtain ⟨_, -, h⟩ := exists_of_bind_eq_ok h
  obtain rfl := Except.ok.inj h
  exact ⟨hc, hs⟩

/-! ## The whole -/

/-- A store of specifications has one entry for each, in order. -/
theorem Config.ResolvedFrom.store {w : World} {s : Settings} {resolver : Option Resolver}
    {c : Config} (h : c.ResolvedFrom w s resolver) : c.certstore.cadir = c.cadir ∧
      (c.certstore.ca.isSome = true ↔
        w.isFile (World.join c.cadir "mitmproxy-ca.pem") = true) ∧
      List.Forall₂ (fun text entry ↦ ∃ path, w.expandUser (CertSpec.sides text).2 = .ok path ∧
        CertEntry.load w (CertSpec.sides text).1 path = .ok entry) s.certs
        c.certstore.entries := by
  obtain ⟨specs, opened, hs, ho, ha⟩ := h.certstore_eq
  obtain ⟨hcadir, -, hentries, hca, -⟩ := CertStore.of_ofDir ho
  obtain ⟨added, he, hadded⟩ := CertStore.of_addAll ha
  rw [he, hentries, List.nil_append]
  refine ⟨hcadir, hca, (forall₂_comp (mapM_eq_ok_iff.mp hs) hadded).imp ?_⟩
  rintro text entry ⟨spec, hload, hentry⟩
  obtain ⟨-, -, hd, hp⟩ := CertSpec.parse_eq_ok_iff.mp (CertSpec.parse_of_load hload)
  rw [hd] at hentry
  exact ⟨spec.path, hp, hentry⟩

/-- A configuration reflects the settings that it is resolved from. The policy of each side depends
on the label of its own side only. -/
theorem Config.reflects_of_resolve {w : World} {s : Settings} {resolver : Option Resolver}
    {c : Config} (h : (Config.resolve w s resolver).result = .ok c) :
    c.Reflects w s resolver ∧ ∀ w' s' resolver' c',
      (Config.resolve w' s' resolver').result = .ok c' →
        (s'.sslVersionClient = s.sslVersionClient → c'.tls.client = c.tls.client) ∧
        (s'.sslVersionServer = s.sslVersionServer → c'.tls.server = c.tls.server) := by
  have hr := resolvedFrom_of_resolve h
  obtain ⟨hclient, hserver⟩ := TlsPolicies.of_resolve hr.tls_eq
  refine ⟨?_, fun w' s' resolver' c' h' ↦ ?_⟩
  · obtain ⟨hcadir, hca, hentries⟩ := hr.store
    obtain ⟨forms, hbuild⟩ := ModeOptions.exists_build_of_resolve hr.mode_eq
    obtain ⟨hmode, hports, htransparent⟩ := ModeOptions.of_build hbuild
    obtain ⟨hdir, hisdir⟩ := of_clientCertDir hr.clientcerts_eq
    obtain ⟨hhost, hport, hciphers, hciphers', hupstream, hforward, hssl⟩ := hr.copied
    constructor
    case noLimit_iff => rw [← sizeLimit_eq_ok_none_iff, hr.bodySizeLimit_eq, Except.ok.injEq]
    case limit =>
      intro n hn
      have hlimit := hr.bodySizeLimit_eq
      rw [Option.mem_def.mp hn] at hlimit
      obtain ⟨text, ht, hd, hpos, hlt⟩ := sizeLimit_eq_ok_some_iff.mp hlimit
      exact ⟨hpos, by omega, text, ht, hd⟩
    case cadir_eq => exact hr.cadir_eq
    case cadir_absolute => exact fun hw ↦ World.isAbsolute_of_absolute hw hr.cadir_eq
    case store_cadir_eq => exact hcadir
    case entries =>
      refine hentries.imp fun _ _ ⟨path, hp, hl⟩ ↦ ⟨⟨path, hp, ?_⟩, List.cons_ne_nil _ _⟩
      exact CertEntry.load_eq_ok_iff.mp hl
    case authority_iff => exact hca.trans World.isFile_iff
    case clientcerts_iff => exact hdir
    case clientcerts_dir => exact hisdir
    case kind_eq => exact ModeOptions.kind_of_build hbuild
    case server_iff => exact hmode
    case sslPorts_eq => exact hssl
    case mode_sslPorts => exact hports
    case destination =>
      intro hk
      obtain ⟨r, hresolver, hm⟩ := htransparent hk
      rw [hm]
      exact ⟨r, hresolver, ProxyMode.destination?_transparent forms r _⟩
    case ignore_texts => exact HostMatcher.texts_of_ofTexts hr.ignore_eq
    case tcp_texts => exact HostMatcher.texts_of_ofTexts hr.tcp_eq
    case backend_eq => exact AuthOptions.backend_of_select hr.authenticator_eq
    case tls_client => exact TlsPolicy.ofLabel_eq_ok_iff.mp hclient
    case tls_server => exact TlsPolicy.ofLabel_eq_ok_iff.mp hserver
    case copied => exact ⟨hhost, hport, hciphers, hciphers', hupstream, hforward⟩
  · obtain ⟨hclient', hserver'⟩ := TlsPolicies.of_resolve (resolvedFrom_of_resolve h').tls_eq
    constructor
    · intro he
      rw [he, hclient] at hclient'
      exact (Except.ok.inj hclient').symm
    · intro he
      rw [he, hserver] at hserver'
      exact (Except.ok.inj hserver').symm

namespace Config

/-- A home with the certificate of a site, and a working directory with that of an authority. -/
def sampleWorld : World where
  entries := [(["home"], .dir), (["home", "site.pem"], .file CertStore.samplePem),
    (["work"], .dir), (["work", "ca"], .dir),
    (["work", "ca", "mitmproxy-ca.pem"], .file CertStore.samplePem)]
  workDir := .ok "/work"
  home := some "/home"
  environment := []

/-- Settings with paths of both kinds, a limit and transparent mode. -/
def sampleSettings : Settings :=
  { Settings.default with
    cadir := "ca", certs := ["*.Example.com=~/site.pem"], clientcerts := some "~",
    bodySizeLimit := some " 2k ", transparentProxy := true, sslVersionServer := "TLSv1_2" }

/-- A resolver that finds one address. -/
def sampleResolver : Resolver := ⟨fun _ ↦ .ok ⟨"10.0.0.1", 443⟩⟩

private theorem find_home : sampleWorld.find "/home" = .ok .dir := by
  have hc : World.components "/home" = ["", "home"] := rfl
  refine World.find_of_walk ⟨rfl, rfl, by decide⟩ ⟨["home"], ?_⟩
  rw [hc, World.walk_empty, World.walk_dir (by decide) rfl,
    World.walk]
  rfl

private theorem find_site :
    sampleWorld.find "/home/site.pem" = .ok (.file CertStore.samplePem) := by
  have hc : World.components "/home/site.pem" = ["", "home", "site.pem"] := rfl
  refine World.find_of_walk ⟨rfl, rfl, by decide⟩ ⟨["home", "site.pem"], ?_⟩
  rw [hc, World.walk_empty, World.walk_dir (by decide) rfl]
  exact World.walk_file (by decide) rfl

private theorem find_authority :
    sampleWorld.find "/work/ca/mitmproxy-ca.pem" = .ok (.file CertStore.samplePem) := by
  have hc : World.components "/work/ca/mitmproxy-ca.pem" = ["", "work", "ca", "mitmproxy-ca.pem"] :=
    rfl
  refine World.find_of_walk ⟨rfl, rfl, by decide⟩ ⟨["work", "ca", "mitmproxy-ca.pem"], ?_⟩
  rw [hc, World.walk_empty, World.walk_dir (by decide) rfl,
    World.walk_dir (by decide) rfl]
  exact World.walk_file (by decide) rfl

private theorem load_samplePem (domain : String) {path : String}
    (hf : sampleWorld.find path = .ok (.file CertStore.samplePem)) :
    ∃ entry, CertEntry.load sampleWorld domain path = .ok entry := by
  rw [CertEntry.load, World.read, hf]
  exact ⟨_, rfl⟩

/-- Paths are seen from the home and from the working directory, and the destination of a redirected
connection to a port of TLS carries TLS. -/
theorem reflects_of_resolve_sample :
    ∃ c, (resolve sampleWorld sampleSettings (some sampleResolver)).result = .ok c ∧
      c.Reflects sampleWorld sampleSettings (some sampleResolver) ∧ c.cadir = "/work/ca" ∧
      c.certstore.ca.isSome = true ∧ c.clientcerts = some "/home" ∧
      ∀ connection, c.mode.destination? connection =
        some (.ok ⟨⟨"10.0.0.1", 443⟩, true⟩) := by
  obtain ⟨c, hc⟩ : ∃ c, (resolve sampleWorld sampleSettings (some sampleResolver)).result =
      .ok c := by
    have hr : sampleSettings.requirements (some sampleResolver) =
        [.exclusive [.transparent], .exclusive [], .size (some " 2k "), .form none, .form none,
          .resolver true (some sampleResolver), .server none, .server none, .directory (some "~"),
          .backend sampleSettings.authOptions, .certSpec "*.Example.com=~/site.pem",
          .authorityDir "ca", .authority "ca", .certFile "*.Example.com=~/site.pem",
          .label "secure", .label "TLSv1_2"] := rfl
    have hsize : Requirement.Holds sampleWorld (.size (some " 2k ")) := by
      rintro _ ⟨⟩
      exact ⟨some 2048, rfl⟩
    have hspec : Requirement.Holds sampleWorld (.certSpec "*.Example.com=~/site.pem") :=
      ⟨by decide, by decide, _, _, rfl, find_site⟩
    have hdirectory : Requirement.Holds sampleWorld (.directory (some "~")) := by
      rintro _ ⟨⟩
      exact ⟨_, rfl, find_home⟩
    have hauthority : Requirement.Holds sampleWorld (.authority "ca") := by
      rintro dir ⟨⟩ _ -
      exact load_samplePem "*" find_authority
    have hfile : Requirement.Holds sampleWorld (.certFile "*.Example.com=~/site.pem") := by
      obtain ⟨entry, he⟩ := load_samplePem "*.Example.com" find_site
      exact ⟨_, entry, rfl, he⟩
    rw [(refused_resolve _ _ _).ok_iff, hr]
    simp only [Requirement.fault?_eq_none_iff, List.forall_mem_cons]
    exact ⟨Nat.le_refl 1, Nat.zero_le 1, hsize, nofun, nofun, fun _ ↦ ⟨_, rfl⟩, nofun, nofun,
      hdirectory, .inr nofun, hspec, ⟨_, rfl⟩, hauthority, hfile, ⟨.secure, by decide, rfl⟩,
      ⟨.tlsV1_2, by decide, rfl⟩, nofun⟩
  have h := (reflects_of_resolve hc).1
  have hcadir : c.cadir = "/work/ca" := by
    have habsolute : sampleWorld.absolute "ca" = .ok "/work/ca" := by decide +kernel
    exact Except.ok.inj (h.cadir_eq.symm.trans habsolute)
  refine ⟨c, hc, h, hcadir, ?_, ?_, fun connection ↦ ?_⟩
  · rw [h.authority_iff, hcadir]
    exact ⟨_, find_authority⟩
  · exact (h.clientcerts_iff "/home").mpr ⟨"~", rfl, rfl⟩
  · have hk : c.mode.kind = .transparent := h.kind_eq
    obtain ⟨r, hresolver, hdestination⟩ := h.destination hk
    obtain rfl := Option.some.inj hresolver
    obtain ⟨tls, hd, htls⟩ := (hdestination connection).1 _ rfl
    rw [hd, htls.mpr (by decide)]

end Config

end ProxySettings
