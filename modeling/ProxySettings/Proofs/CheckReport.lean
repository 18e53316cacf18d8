import ProxySettings.Check
import ProxySettings.Proofs.ResolvedConfig

/-!
# What a check reports

A check resolves settings and adds nothing to the outcome: it succeeds exactly if resolving does,
and it is refused for the same reason. After the events of resolving it reports on the
configuration, and the report warns of what the configuration itself allows.
-/

namespace ProxySettings

/-- A policy admits a handshake of SSL version 2 or 3: it opens with one of them, or it negotiates
and does not switch off both. -/
def TlsPolicy.AdmitsSsl (p : TlsPolicy) : Prop :=
  p.method = .sslV2 ∨ p.method = .sslV3 ∨
    p.method = .negotiate ∧ ¬(p.disables .noSslV2 = true ∧ p.disables .noSslV3 = true)

instance : DecidablePred TlsPolicy.AdmitsSsl := fun p ↦
  inferInstanceAs (Decidable (p.method = .sslV2 ∨ p.method = .sslV3 ∨
    p.method = .negotiate ∧ ¬(p.disables .noSslV2 = true ∧ p.disables .noSslV3 = true)))

/-- The labels that are called insecure are those whose policies admit SSL. -/
theorem TlsVersion.isInsecure_iff (v : TlsVersion) :
    v.isInsecure = true ↔ (TlsPolicy.ofVersion v).AdmitsSsl := by
  cases v <;> decide

namespace Check

/-! ## The lines of a report -/

/-- The line that opens every check. -/
def startLine : Event := info "Running configuration check..."

/-- The line that closes the report on a configuration. -/
def okLine : Event := info "Configuration OK"

/-- The line of an entry of the store. -/
def entryLine (e : CertEntry) : Event := info ("  " ++ e.domain ++ " -> " ++ e.path)

/-- The warning that the authority has no certificate. -/
def missingAuthority (dir : String) : Event := warn ("No CA certificate found in " ++ dir)

/-- The warning of a label that admits SSL on one side. -/
def insecureWarning (side label : String) : Event :=
  warn ("SSL version '" ++ label ++ "' for " ++ side ++ " connections is INSECURE")

/-- The warning of one side, if its policy admits SSL. -/
def sideWarning (side label : String) (policy : TlsPolicy) : List Event :=
  if policy.AdmitsSsl then [insecureWarning side label] else []

/-- The warning of an authority without a certificate, if there is none. -/
def authorityWarning (c : Config) : List Event :=
  if c.certstore.ca = none then [missingAuthority c.cadir] else []

/-- The lines about everything but certificates and protocols. -/
def headLines (c : Config) : List Event :=
  [info ("Listen address: " ++ (if c.host.isEmpty then "*" else c.host) ++ ":" ++
      toString c.port.toNat),
    info ("Mode: " ++ c.mode.kind.text),
    info ("  HTTP form in/out: " ++ c.mode.forms.incoming.text ++ "/" ++
      c.mode.forms.outgoing.text)] ++
  modeLines c.mode ++
  [info ("Authentication: " ++ c.authenticator.backend.text),
    info ("Body size limit: " ++
      (match c.bodySizeLimit with
      | some n => toString n ++ " bytes"
      | none => "unlimited")),
    patternLine "Ignore" c.ignore,
    patternLine "TCP" c.tcp,
    info ("Certificate directory: " ++ c.cadir)]

/-- The line of both policies. -/
def policyLine (c : Config) : Event :=
  info ("SSL policy client=" ++ c.tls.client.describe ++ " server=" ++ c.tls.server.describe)

/-- The report on a configuration that settings resolved to: the certificates of the store have a
line each, in order. -/
def summary (s : Settings) (c : Config) : List Event :=
  headLines c ++ authorityWarning c ++ c.certstore.entries.map entryLine ++
    sideWarning "client" s.sslVersionClient c.tls.client ++
    sideWarning "server" s.sslVersionServer c.tls.server ++ [policyLine c, okLine]

/-! ## The run of a check -/

/-- The lines down to the certificates warn of a missing authority and list the store. -/
theorem settingLines_eq (c : Config) :
    settingLines c = headLines c ++ (authorityWarning c ++ c.certstore.entries.map entryLine) := by
  have hc : certLines c = authorityWarning c ++ c.certstore.entries.map entryLine := by
    simp only [certLines, authorityWarning, Option.isNone_iff_eq_none]
    rfl
  rw [← hc]
  rfl

/-- A label that has a policy is read a second time, and it is warned of if the policy admits SSL.
-/
theorem insecureLine_of_policy {label : String} {policy : TlsPolicy}
    (h : TlsPolicy.ofLabel label = .ok policy) (side : String) :
    insecureLine side label = .ok (sideWarning side label policy) := by
  obtain ⟨v, rfl, rfl⟩ := TlsPolicy.ofLabel_eq_ok_iff.mp h
  rw [insecureLine, TlsVersion.ofLabel_eq_ok_iff.mpr rfl, sideWarning]
  change (if v.isInsecure = true then _ else _) = _
  simp only [← TlsVersion.isInsecure_iff]
  split <;> rfl

/-- A check is refused where resolving is, after the same events. -/
theorem run_of_error {w : World} {s : Settings} {e : ConfigError}
    (h : (Config.resolve w s (some .platform)).result = .error e) :
    run w s = ⟨startLine :: (Config.resolve w s (some .platform)).events, .error e⟩ := by
  rw [run]
  generalize Config.resolve w s (some .platform) = t at h ⊢
  obtain ⟨events, result⟩ := t
  obtain rfl : result = .error e := h
  rfl

/-- After resolving a check succeeds, and its report follows the events. -/
theorem run_of_ok {w : World} {s : Settings} {c : Config}
    (h : (Config.resolve w s (some .platform)).result = .ok c) :
    run w s =
      ⟨startLine :: ((Config.resolve w s (some .platform)).events ++ summary s c), .ok c⟩ := by
  obtain ⟨hclient, hserver⟩ := TlsPolicies.of_resolve (Config.resolvedFrom_of_resolve h).tls_eq
  rw [run]
  generalize Config.resolve w s (some .platform) = t at h ⊢
  obtain ⟨events, result⟩ := t
  obtain rfl : result = .ok c := h
  simp only [Traced.bind_ok, Traced.log_bind, Traced.lift_ok_bind,
    insecureLine_of_policy hclient, insecureLine_of_policy hserver]
  rw [settingLines_eq]
  simp only [summary, List.append_assoc]
  rfl

/-! ## The warnings of a report -/

/-- The lines about everything but certificates and protocols warn of nothing. -/
theorem level_of_mem_headLines {c : Config} {line : Event} (h : line ∈ headLines c) :
    line.level = .info := by
  have hm : ∀ line ∈ modeLines c.mode, line.level = .info := by
    intro line hl
    cases hc : c.mode <;> simp only [hc, modeLines, List.mem_singleton, List.not_mem_nil] at hl <;>
      rw [hl] <;> rfl
  simp only [headLines, List.mem_append, List.mem_cons, List.not_mem_nil, or_false] at h
  rcases h with ((rfl | rfl | rfl) | h) | rfl | rfl | rfl | rfl | rfl
  all_goals first | rfl | exact hm line h

/-- What does not warn is not among the warnings. -/
theorem filter_warn_eq_nil {lines : List Event} (h : ∀ line ∈ lines, line.level = .info) :
    lines.filter (·.level = .warn) = [] := by
  rw [List.filter_eq_nil_iff]
  intro line hl
  rw [h line hl]
  decide

/-- A report warns of a missing authority and of each side whose policy admits SSL, and of nothing
else. -/
theorem filter_warn_summary (s : Settings) (c : Config) :
    (summary s c).filter (·.level = .warn) = authorityWarning c ++
      sideWarning "client" s.sslVersionClient c.tls.client ++
      sideWarning "server" s.sslVersionServer c.tls.server := by
  have he : ∀ line ∈ c.certstore.entries.map entryLine, line.level = .info := by
    intro line hl
    obtain ⟨e, -, rfl⟩ := List.mem_map.mp hl
    rfl
  have ha : (authorityWarning c).filter (·.level = .warn) = authorityWarning c := by
    rw [authorityWarning]
    split <;> rfl
  have hs (side label : String) (policy : TlsPolicy) :
      (sideWarning side label policy).filter (·.level = .warn) = sideWarning side label policy := by
    rw [sideWarning]
    split <;> rfl
  have hl : [policyLine c, okLine].filter (·.level = .warn) = [] := rfl
  simp only [summary, List.filter_append, filter_warn_eq_nil fun _ h ↦ level_of_mem_headLines h,
    filter_warn_eq_nil he, ha, hs, hl, List.nil_append, List.append_nil]

theorem mem_sideWarning_iff {side label : String} {policy : TlsPolicy} {line : Event} :
    line ∈ sideWarning side label policy ↔
      policy.AdmitsSsl ∧ line = insecureWarning side label := by
  rw [sideWarning]
  split
  · next h => simp [h]
  · next h => simp [h]

/-- A warning tells its side. -/
theorem insecureWarning_client_ne_server (label label' : String) :
    insecureWarning "client" label ≠ insecureWarning "server" label' := by
  intro h
  have hm := congrArg (fun e ↦ e.message.toList) h
  simp only [insecureWarning, warn, String.toList_append] at hm
  have hs := List.append_inj_right' (List.append_cancel_right hm) rfl
  exact absurd hs (by decide)

theorem missingAuthority_ne_insecureWarning (dir side label : String) :
    missingAuthority dir ≠ insecureWarning side label := by
  intro h
  have hm := congrArg (fun e ↦ e.message.toList.head?) h
  simp only [missingAuthority, insecureWarning, warn, String.toList_append, List.append_assoc] at hm
  cases hm

/-- The warnings of a report are those of a missing authority and of the sides that admit SSL. -/
theorem mem_summary_iff_of_warn {s : Settings} {c : Config} {line : Event}
    (hl : line.level = .warn) : line ∈ summary s c ↔
      (c.certstore.ca = none ∧ line = missingAuthority c.cadir) ∨
      (c.tls.client.AdmitsSsl ∧ line = insecureWarning "client" s.sslVersionClient) ∨
      (c.tls.server.AdmitsSsl ∧ line = insecureWarning "server" s.sslVersionServer) := by
  have hf : line ∈ summary s c ↔ line ∈ (summary s c).filter (·.level = .warn) := by
    simp [List.mem_filter, hl]
  have ha : line ∈ authorityWarning c ↔
      c.certstore.ca = none ∧ line = missingAuthority c.cadir := by
    rw [authorityWarning]
    split <;> simp [*]
  rw [hf, filter_warn_summary, List.mem_append, List.mem_append, ha, mem_sideWarning_iff,
    mem_sideWarning_iff, or_assoc]

/-- Checking settings has the result of resolving them: the same configuration or the same refusal.
Its events are an opening line and those of resolving, and after a success the report on the
configuration, which ends with an approval. The report warns of an authority without a certificate
and of each side whose own policy admits SSL, and of nothing else. -/
theorem run_reports (w : World) (s : Settings) :
    (run w s).result = (Config.resolve w s (some .platform)).result ∧
    (∀ e, (Config.resolve w s (some .platform)).result = .error e →
      (run w s).events = startLine :: (Config.resolve w s (some .platform)).events) ∧
    ∀ c, (Config.resolve w s (some .platform)).result = .ok c →
      (run w s).events =
        startLine :: ((Config.resolve w s (some .platform)).events ++ summary s c) ∧
      (summary s c).getLast? = some okLine ∧
      (∃ before after, ∀ entries,
        summary s { c with certstore := { c.certstore with entries := entries } } =
          before ++ entries.map entryLine ++ after) ∧
      (missingAuthority c.cadir ∈ summary s c ↔ c.certstore.ca = none) ∧
      (insecureWarning "client" s.sslVersionClient ∈ summary s c ↔ c.tls.client.AdmitsSsl) ∧
      (insecureWarning "server" s.sslVersionServer ∈ summary s c ↔ c.tls.server.AdmitsSsl) ∧
      ∀ line ∈ summary s c, line.level = .warn →
        line ∈ [missingAuthority c.cadir, insecureWarning "client" s.sslVersionClient,
          insecureWarning "server" s.sslVersionServer] := by
  refine ⟨?_, fun e he ↦ by rw [run_of_error he], fun c hc ↦ ?_⟩
  · cases hr : (Config.resolve w s (some .platform)).result with
    | error e => rw [run_of_error hr]
    | ok c => rw [run_of_ok hr]
  refine ⟨by rw [run_of_ok hc], ?_, ⟨headLines c ++ authorityWarning c,
    sideWarning "client" s.sslVersionClient c.tls.client ++
      (sideWarning "server" s.sslVersionServer c.tls.server ++ [policyLine c, okLine]),
    fun entries ↦ ?_⟩, ?_, ?_, ?_, ?_⟩
  · rw [summary, List.getLast?_append]
    rfl
  · simp only [summary, List.append_assoc]
    rfl
  · rw [mem_summary_iff_of_warn rfl]
    simp [missingAuthority_ne_insecureWarning]
  · rw [mem_summary_iff_of_warn rfl]
    simp [(missingAuthority_ne_insecureWarning _ _ _).symm, insecureWarning_client_ne_server]
  · rw [mem_summary_iff_of_warn rfl]
    simp [(missingAuthority_ne_insecureWarning _ _ _).symm,
      (insecureWarning_client_ne_server _ _).symm]
  · intro line hl hlevel
    rcases (mem_summary_iff_of_warn hlevel).mp hl with h | h | h
    all_goals simp [h.2]

end Check

end ProxySettings
