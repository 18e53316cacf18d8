import ProxySettings.Proofs.LoadedStore
import ProxySettings.Proofs.Requirement
import ProxySettings.Proofs.Selection

/-!
# Resolving goes through the requirements in order

Every stage of resolving settings is refused for the first of its own requirements that fails. A
stage runs only after a value of all stages before it, so the whole is refused for the first
requirement of all that fails.
-/

namespace ProxySettings

/-- What a choice of a mode has to meet, more than one request apart. -/
def ModeOptions.requirements (o : ModeOptions) (resolver : Option Resolver) : List Requirement :=
  [.form o.httpFormIn, .form o.httpFormOut, .resolver o.transparent resolver,
    .server o.reverseTarget, .server o.upstreamTarget]

/-- What settings have to meet, in the order in which it is looked at. -/
def Settings.requirements (s : Settings) (resolver : Option Resolver) : List Requirement :=
  List.flatten
    [[.exclusive s.modeOptions.requested, .exclusive s.authOptions.requested],
      [.size s.bodySizeLimit], s.modeOptions.requirements resolver,
      [.directory s.clientcerts], [.backend s.authOptions], s.certs.map .certSpec,
      s.ignoreHosts.map .hostPattern, s.tcpHosts.map .hostPattern,
      [.authorityDir s.cadir], [.authority s.cadir],
      s.certs.map .certFile, [.label s.sslVersionClient, .label s.sslVersionServer]]

open Requirement (fault? fault?_eq_none_iff)

/-! ## Exclusive choices, size and mode -/

theorem Settings.refusal?_validateFlags (w : World) (requested : List Flag) :
    refusal? (validateFlags requested).result = fault? w (.exclusive requested) := by
  rw [validateFlags, fault?]
  split
  · next h =>
    rw [Traced.result_bind, Traced.result_log, refuseUnless,
      if_neg (by simpa using h)]
    rfl
  · next h =>
    rw [refuseUnless, if_pos (by simpa using h)]
    rfl

/-- Validation looks at the modes first, and then at the ways to authenticate. -/
theorem Settings.refused_validate (w : World) (s : Settings) :
    RefusedInOrder (fault? w)
      [.exclusive s.modeOptions.requested, .exclusive s.authOptions.requested]
      s.validate.result := by
  rw [validate, Traced.result_bind]
  exact .cons (refusal?_validateFlags w _) fun _ _ ↦ .single (refusal?_validateFlags w _)

/-- After validation at most one mode is asked for. -/
theorem Settings.length_requested_le {s : Settings} (h : s.validate.result = .ok ()) :
    s.modeOptions.requested.length ≤ 1 := by
  rw [validate, Traced.result_bind] at h
  obtain ⟨_, hv, -⟩ := exists_of_bind_eq_ok h
  rw [validateFlags] at hv
  split at hv
  · cases hv
  · next hl => exact Nat.not_lt.mp hl

theorem Config.refusal?_sizeLimit (w : World) (text : Option String) :
    refusal? (sizeLimit text) = fault? w (.size text) := by
  cases text <;> rfl

theorem ModeOptions.refusal?_formOverride (w : World) (text : Option String) :
    refusal? (formOverride text) = fault? w (.form text) := by
  rw [formOverride, fault?]
  cases nonEmpty text with
  | none => rfl
  | some t =>
    have hc : ["relative", "absolute", "authority"].any (· == t) =
        [HttpForm.relative, .absolute, .authority].any (·.text == t) := rfl
    rw [refusal?_map, HttpForm.parse, Option.bind_some, hc, ← List.isSome_find?]
    cases List.find? _ _ <;> rfl

/-- The number of modes that are asked for. -/
theorem ModeOptions.length_requested (o : ModeOptions) :
    o.requested.length = o.transparent.toNat + o.socks5.toNat + o.reverseTarget.isSome.toNat +
      o.upstreamTarget.isSome.toNat := by
  rw [requested]
  cases o.transparent <;> cases o.socks5 <;> cases o.reverseTarget.isSome <;>
    cases o.upstreamTarget.isSome <;> rfl

/-- A mode that is asked for is the only one, so that only what it needs can be missing. -/
theorem ModeOptions.refused_build {o : ModeOptions} (h : o.requested.length ≤ 1) (w : World)
    (resolver : Option Resolver) (forms : HttpForms) :
    RefusedInOrder (fault? w)
      [.resolver o.transparent resolver, .server o.reverseTarget, .server o.upstreamTarget]
      (o.build resolver forms) := by
  have unset (x : Option String) (hx : x.isSome.toNat = 0) : x = none := by
    cases x with
    | none => rfl
    | some t => cases hx
  rw [length_requested] at h
  unfold RefusedInOrder build kind
  cases ht : o.transparent with
  | true =>
    rw [ht, Bool.toNat_true] at h
    rw [unset o.reverseTarget (by omega), unset o.upstreamTarget (by omega)]
    cases resolver <;> rfl
  | false =>
    cases hs : o.socks5 with
    | true =>
      rw [hs, Bool.toNat_true] at h
      rw [unset o.reverseTarget (by omega), unset o.upstreamTarget (by omega)]
      rfl
    | false =>
      cases hr : o.reverseTarget with
      | some target =>
        rw [hr, Option.isSome_some, Bool.toNat_true] at h
        rw [unset o.upstreamTarget (by omega)]
        change refusal? ((ServerSpec.parse target).map (ProxyMode.reverse forms)) = _
        rw [refusal?_map]
        cases hp : refusal? (ServerSpec.parse target) <;> simp [List.findSome?_cons, hp]
      | none =>
        cases hu : o.upstreamTarget with
        | some target =>
          change refusal? ((ServerSpec.parse target).map (ProxyMode.upstream forms)) = _
          rw [refusal?_map]
          cases hp : refusal? (ServerSpec.parse target) <;> simp [List.findSome?_cons, hp]
        | none => rfl

/-- Choosing a mode looks at the forms first, and then at what the mode itself needs. -/
theorem ModeOptions.refused_resolve {o : ModeOptions} (h : o.requested.length ≤ 1) (w : World)
    (resolver : Option Resolver) :
    RefusedInOrder (fault? w) (o.requirements resolver) (o.resolve resolver).result := by
  rw [resolve, if_neg (by omega), requirements]
  simp only [Traced.result_bind, Traced.result_lift]
  refine .cons (refusal?_formOverride w _) fun incoming _ ↦ ?_
  refine .cons (refusal?_formOverride w _) fun outgoing _ ↦ ?_
  rw [← List.append_nil [_, _, _]]
  exact (refused_build h w resolver _).bind fun _ _ ↦ .ok _

/-! ## Client certificates and authentication -/

theorem Config.refusal?_clientCertDir (w : World) (path : Option String) :
    refusal? (clientCertDir w path) = fault? w (.directory path) := by
  cases path with
  | none => rfl
  | some p =>
    rw [clientCertDir, refusal?_bind, fault?, Option.bind_some]
    congr 1
    funext dir
    rw [refusal?_bind, requireDir]
    cases w.doesExist dir <;> cases w.isDir dir <;> rfl

theorem SingleUser.refusal?_parse (spec : String) :
    refusal? (parse spec) =
      refuseUnless (spec.toList.count ':' == 1) (.invalidFormat .singleUser spec) := by
  cases h : parse spec with
  | ok known =>
    have hc := exists_parse_iff.mp ⟨known, h⟩
    rw [hc]
    rfl
  | error e =>
    obtain ⟨hc, rfl⟩ := parse_eq_error_iff.mp h
    rw [beq_false_of_ne hc]
    rfl

/-- Selection is refused for the way that decides. -/
theorem AuthOptions.refusal?_select (w : World) (o : AuthOptions) :
    refusal? (o.select w).result = fault? w (.backend o) := by
  rw [result_select, refusal?_map, fault?]
  cases hs : o.singleuserSpec with
  | some spec => rw [manager?_of_singleuser hs, refusal?_map, SingleUser.refusal?_parse]
  | none =>
    cases hn : o.nonanonymous with
    | true =>
      rw [manager?_of_nonanonymous hs hn]
      rfl
    | false =>
      cases hp : o.htpasswdPath with
      | none =>
        rw [manager?_of_none hs hn hp]
        rfl
      | some path =>
        rw [manager?_of_htpasswd hs hn hp, refusal?_map, Htpasswd.loadNamed, refusal?_bind]
        rfl

/-! ## Certificates, patterns and labels -/

/-- A specification keeps its domain, and its file is the expanded path. -/
theorem CertSpec.parse_eq (w : World) (text : String) :
    parse w text = if (sides text).1 = "" ∨ (sides text).2 = "" then
      .error (.invalidFormat .certSpec text)
      else (w.expandUser (sides text).2).map (CertSpec.mk (sides text).1) := by
  simp only [parse, String.isEmpty_iff]

/-- A text is read exactly if neither side is empty and its path expands. -/
theorem CertSpec.parse_eq_ok_iff {w : World} {text : String} {spec : CertSpec} :
    parse w text = .ok spec ↔ (sides text).1 ≠ "" ∧ (sides text).2 ≠ "" ∧
      spec.domain = (sides text).1 ∧ w.expandUser (sides text).2 = .ok spec.path := by
  rw [parse_eq]
  split
  · next h =>
    constructor
    · intro hp
      cases hp
    · rintro ⟨hd, hp, -⟩
      exact (h.elim hd hp).elim
  · next h =>
    rw [not_or] at h
    constructor
    · intro hp
      obtain ⟨path, he, rfl⟩ := exists_of_map_eq_ok hp
      exact ⟨h.1, h.2, rfl, he⟩
    · rintro ⟨-, -, hd, he⟩
      rw [he, ← hd]
      rfl

/-- A specification is loaded by reading its text and looking for its file. -/
theorem CertSpec.load_eq (w : World) (text : String) : load w text = parse w text >>= fun spec ↦
    if w.doesExist spec.path then .ok spec
    else .error (.fileNotFound .certificate spec.path) := by
  rw [load]
  cases parse w text <;> rfl

/-- A specification that is loaded is read from its text. -/
theorem CertSpec.parse_of_load {w : World} {text : String} {spec : CertSpec}
    (h : load w text = .ok spec) : parse w text = .ok spec := by
  rw [load_eq] at h
  obtain ⟨parsed, hp, hf⟩ := exists_of_bind_eq_ok h
  split at hf
  · rw [hp, Except.ok.inj hf]
  · cases hf

theorem CertSpec.refusal?_load (w : World) (text : String) :
    refusal? (load w text) = fault? w (.certSpec text) := by
  rw [load, parse_eq, fault?]
  split_ifs with h
  · rfl
  · cases w.expandUser (sides text).2 with
    | error e => rfl
    | ok path =>
      simp only [Except.map, firstRefusal?, refuseUnless]
      cases w.doesExist path <;> rfl

theorem HostPattern.refusal?_compile (w : World) (text : String) :
    refusal? (compile text) = fault? w (.hostPattern text) := by
  rw [compile, fault?]
  cases compile? text <;> rfl

/-- Patterns are looked at one after the other. -/
theorem HostMatcher.refused_ofTexts (w : World) (texts : List String) :
    RefusedInOrder (fault? w) (texts.map .hostPattern) (ofTexts texts) :=
  (RefusedInOrder.mapM (HostPattern.refusal?_compile w) texts).map _

/-- A store opens unless the authority's file is there and cannot be loaded. -/
theorem CertStore.refusal?_ofDir {w : World} {cadir dir : String}
    (h : w.absolute cadir = .ok dir) :
    refusal? (ofDir w dir Config.certBasename).result = fault? w (.authority cadir) := by
  have hp : caPath dir Config.certBasename = World.join dir "mitmproxy-ca.pem" := rfl
  rw [ofDir, hp, fault?, h, Except.toOption, Option.bind_some]
  split
  · simp only [Traced.result_bind, Traced.result_log, Traced.result_lift, CertSpec.anyDomain]
    cases CertEntry.load w "*" (World.join dir "mitmproxy-ca.pem") <;> rfl
  · rfl

/-- The file of a specification that is read is the one that its text names. -/
theorem CertSpec.fault?_certFile {w : World} {text : String} {spec : CertSpec}
    (h : parse w text = .ok spec) :
    fault? w (.certFile text) = refusal? (CertEntry.load w spec.domain spec.path) := by
  obtain ⟨-, -, hd, hp⟩ := parse_eq_ok_iff.mp h
  rw [fault?, hp, hd]
  rfl

/-- Adding goes through the files of the specifications that were read from some texts. -/
theorem CertStore.refused_addAll {w : World} {texts : List String} {specs : List CertSpec}
    (h : List.Forall₂ (fun text spec ↦ CertSpec.parse w text = .ok spec) texts specs)
    (s : CertStore) :
    RefusedInOrder (fault? w) (texts.map .certFile) (s.addAll w specs).traced.result := by
  induction h generalizing s with
  | nil => exact .ok s
  | @cons text spec texts specs hp _ ih =>
    have hf := CertSpec.fault?_certFile hp
    rw [List.map_cons, addAll, RefusedInOrder, List.findSome?_cons, hf]
    cases CertEntry.load w spec.domain spec.path with
    | error e => rfl
    | ok entry => exact ih _

theorem TlsPolicy.refusal?_ofLabel (w : World) (text : String) :
    refusal? (ofLabel text) = fault? w (.label text) := by
  rw [ofLabel, refusal?_map, TlsVersion.ofLabel, fault?, ← List.isSome_find?]
  cases List.find? _ _ <;> rfl

/-- The client's label is looked at first. -/
theorem TlsPolicies.refused_resolve (w : World) (client server : String) :
    RefusedInOrder (fault? w) [.label client, .label server] (resolve client server).result := by
  rw [resolve]
  simp only [Traced.result_bind, Traced.result_lift, Traced.result_log]
  refine .cons (TlsPolicy.refusal?_ofLabel w _) fun _ _ ↦ ?_
  exact .cons (TlsPolicy.refusal?_ofLabel w _) fun _ _ ↦ .ok _

/-! ## The whole -/

/-- Settings are refused for the first of their requirements that fails. -/
theorem Config.refused_resolve (w : World) (s : Settings) (resolver : Option Resolver) :
    RefusedInOrder (fault? w) (s.requirements resolver) (resolve w s resolver).result := by
  rw [resolve, Settings.requirements]
  simp only [List.flatten_cons, List.flatten_nil, Traced.result_bind, Traced.result_lift]
  refine .bind (s.refused_validate w) fun _ hv ↦ ?_
  refine .bind (.single (refusal?_sizeLimit w _)) fun _ _ ↦ ?_
  refine .bind (ModeOptions.refused_resolve (Settings.length_requested_le hv) w _) fun _ _ ↦ ?_
  refine .bind (.single (refusal?_clientCertDir w _)) fun _ _ ↦ ?_
  refine .bind (.single (s.authOptions.refusal?_select w)) fun _ _ ↦ ?_
  refine .bind (.mapM (CertSpec.refusal?_load w) s.certs) fun certs hc ↦ ?_
  refine .bind (HostMatcher.refused_ofTexts w _) fun _ _ ↦ ?_
  refine .bind (HostMatcher.refused_ofTexts w _) fun _ _ ↦ ?_
  refine .bind (.single rfl) fun cadir hd ↦ ?_
  refine .bind (.single (CertStore.refusal?_ofDir hd)) fun _ _ ↦ ?_
  have hread := (mapM_eq_ok_iff.mp hc).imp fun _ _ ↦ CertSpec.parse_of_load
  refine .bind (CertStore.refused_addAll hread _) fun _ _ ↦ ?_
  exact .bind (TlsPolicies.refused_resolve w _ _) fun _ _ ↦ .ok _

/-- Settings resolve exactly if every requirement holds, one of which is that the directory of the
authority can be named. They are refused for the first requirement that does not hold, and then
every requirement before it does. -/
theorem Config.resolve_iff_requirements (w : World) (s : Settings) (resolver : Option Resolver) :
    ((∃ c, (resolve w s resolver).result = .ok c) ↔ ∀ q ∈ s.requirements resolver, q.Holds w) ∧
      ∀ e, (resolve w s resolver).result = .error e ↔
        ∃ before q after, s.requirements resolver = before ++ q :: after ∧
          (∀ p ∈ before, p.Holds w) ∧ ¬q.Holds w ∧ q.fault? w = some e := by
  have h := refused_resolve w s resolver
  simp only [← fault?_eq_none_iff]
  refine ⟨h.ok_iff, fun e ↦ ?_⟩
  rw [h.error_iff]
  constructor
  · rintro ⟨before, q, after, hs, hq, hb⟩
    refine ⟨before, q, after, hs, hb, ?_, hq⟩
    rw [hq]
    exact Option.some_ne_none e
  · rintro ⟨before, q, after, hs, hb, -, hq⟩
    exact ⟨before, q, after, hs, hq, hb⟩

/-- Settings that give nothing but a directory of the authority. -/
def Config.settingsOf (cadir : String) : Settings := { Settings.default with cadir := cadir }

/-- Nothing but the directory of the authority speaks against such settings, if it cannot be named.
They are refused for that. -/
theorem Config.refused_settingsOf {w : World} {cadir : String} {e : ConfigError}
    (h : w.absolute cadir = .error e) :
    (∀ q ∈ (settingsOf cadir).requirements none, q ≠ .authorityDir cadir → q.Holds w) ∧
      (resolve w (settingsOf cadir) none).result = .error e := by
  obtain ⟨before, after, hr, hbefore, hafter⟩ : ∃ before after,
      (settingsOf cadir).requirements none = before ++ .authorityDir cadir :: after ∧
        (∀ q ∈ before, q.Holds w) ∧ ∀ q ∈ after, q.Holds w := by
    have hauthority : Requirement.Holds w (.authority cadir) := by
      intro dir hd
      rw [h] at hd
      cases hd
    have hlabel : Requirement.Holds w (.label "secure") := ⟨.secure, by decide, rfl⟩
    refine ⟨[.exclusive [], .exclusive [], .size none, .form none, .form none,
      .resolver false none, .server none, .server none, .directory none,
      .backend (settingsOf cadir).authOptions],
      [.authority cadir, .label "secure", .label "secure"], rfl, ?_, ?_⟩
    · simp only [List.forall_mem_cons]
      exact ⟨Nat.zero_le 1, Nat.zero_le 1, nofun, nofun, nofun, nofun, nofun, nofun, nofun,
        .inr nofun, nofun⟩
    · simp only [List.forall_mem_cons]
      exact ⟨hauthority, hlabel, hlabel, nofun⟩
  constructor
  · intro q hq hne
    rw [hr] at hq
    rcases List.mem_append.mp hq with hq | hq
    · exact hbefore q hq
    · exact hafter q (List.mem_of_ne_of_mem hne hq)
  · exact (refused_resolve w _ none).error_iff.mpr ⟨before, _, after, hr,
      refusal?_eq_some_iff.mpr h, fun q hq ↦ (fault?_eq_none_iff w q).mpr (hbefore q hq)⟩

/-- A world whose working directory is gone. -/
def Config.lostWorld : World := ⟨[(["home"], .dir)], .error .notFound, some "/home", []⟩

/-- A world without a home directory. -/
def Config.homelessWorld : World := ⟨[], .ok "/", none, []⟩

/-- Settings can fail to resolve though no file of an authority is there and everything else that is
asked of them holds: the working directory has to be named for a relative directory of the
authority, and the home directory for the one that is taken if none is given. -/
theorem Config.refused_without_authorityDir :
    ((∀ q ∈ (settingsOf "ca").requirements none, q ≠ .authorityDir "ca" → q.Holds lostWorld) ∧
      (∀ bytes, lostWorld.find "ca/mitmproxy-ca.pem" ≠ .ok (.file bytes)) ∧
      (resolve lostWorld (settingsOf "ca") none).result = .error (.io .notFound)) ∧
    (∀ q ∈ Settings.default.requirements none,
      q ≠ .authorityDir Settings.defaultCadir → q.Holds homelessWorld) ∧
      (resolve homelessWorld .default none).result = .error .noHomeDir := by
  have hlost : lostWorld.absolute "ca" = .error (.io .notFound) := rfl
  have hhomeless : homelessWorld.absolute Settings.defaultCadir = .error .noHomeDir := rfl
  refine ⟨⟨(refused_settingsOf hlost).1, fun bytes h ↦ ?_, (refused_settingsOf hlost).2⟩,
    refused_settingsOf hhomeless⟩
  cases h

/-! ## The parts of a configuration -/

/-- Every part of a configuration comes from its own stage, and the others are the settings' own. -/
structure Config.ResolvedFrom (w : World) (s : Settings) (resolver : Option Resolver) (c : Config) :
    Prop where
  validate_eq : s.validate.result = .ok ()
  bodySizeLimit_eq : Config.sizeLimit s.bodySizeLimit = .ok c.bodySizeLimit
  mode_eq : (s.modeOptions.resolve resolver).result = .ok c.mode
  clientcerts_eq : Config.clientCertDir w s.clientcerts = .ok c.clientcerts
  authenticator_eq : (s.authOptions.select w).result = .ok c.authenticator
  ignore_eq : HostMatcher.ofTexts s.ignoreHosts = .ok c.ignore
  tcp_eq : HostMatcher.ofTexts s.tcpHosts = .ok c.tcp
  certstore_eq : ∃ specs opened, CertSpec.loadAll w s.certs = .ok specs ∧
    (CertStore.ofDir w c.cadir Config.certBasename).result = .ok opened ∧
    (opened.addAll w specs).traced.result = .ok c.certstore
  tls_eq : (TlsPolicies.resolve s.sslVersionClient s.sslVersionServer).result = .ok c.tls
  cadir_eq : w.absolute s.cadir = .ok c.cadir
  copied : c.host = s.addr ∧ c.port = s.port ∧ c.ciphersClient = s.ciphersClient ∧
    c.ciphersServer = s.ciphersServer ∧ c.noUpstreamCert = s.noUpstreamCert ∧
    c.certforward = s.certforward ∧ c.sslPorts = s.sslPorts

/-- A configuration has its parts from the stages that it went through. -/
theorem Config.resolvedFrom_of_resolve {w : World} {s : Settings} {resolver : Option Resolver}
    {c : Config} (h : (resolve w s resolver).result = .ok c) : ResolvedFrom w s resolver c := by
  rw [resolve] at h
  simp only [Traced.result_bind, Traced.result_lift] at h
  obtain ⟨_, hvalidate, h⟩ := exists_of_bind_eq_ok h
  obtain ⟨limit, hlimit, h⟩ := exists_of_bind_eq_ok h
  obtain ⟨mode, hmode, h⟩ := exists_of_bind_eq_ok h
  obtain ⟨clientcerts, hclientcerts, h⟩ := exists_of_bind_eq_ok h
  obtain ⟨authenticator, hauthenticator, h⟩ := exists_of_bind_eq_ok h
  obtain ⟨specs, hspecs, h⟩ := exists_of_bind_eq_ok h
  obtain ⟨ignore, hignore, h⟩ := exists_of_bind_eq_ok h
  obtain ⟨tcp, htcp, h⟩ := exists_of_bind_eq_ok h
  obtain ⟨cadir, hcadir, h⟩ := exists_of_bind_eq_ok h
  obtain ⟨opened, hopened, h⟩ := exists_of_bind_eq_ok h
  obtain ⟨certstore, hcertstore, h⟩ := exists_of_bind_eq_ok h
  obtain ⟨tls, htls, h⟩ := exists_of_bind_eq_ok h
  obtain rfl := Except.ok.inj h
  exact ⟨hvalidate, hlimit, hmode, hclientcerts, hauthenticator, hignore, htcp,
    ⟨specs, opened, hspecs, hopened, hcertstore⟩, htls, hcadir,
    rfl, rfl, rfl, rfl, rfl, rfl, rfl⟩

end ProxySettings
