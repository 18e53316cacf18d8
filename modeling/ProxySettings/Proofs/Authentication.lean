import ProxySettings.Proofs.CredentialFile
import ProxySettings.Proofs.SingleUser

/-!
# Authentication fails closed

Where authentication is asked for, selection ends in a refusal or with an authenticator that rejects
every request without credentials. The way that comes first decides, and what it needs is never
replaced by another way. Where nothing is asked for, every request passes.
-/

namespace ProxySettings

/-- A request without credentials: there is no field for them, or the first such field has bytes
that do not show in ASCII, or it does not decode to a user and a password. -/
inductive Headers.LacksCredentials (headers : Headers) : Prop where
  | noField (h : headers.first? Header.proxyAuthorization = none)
  | notVisible (field : Header) (h : headers.first? Header.proxyAuthorization = some field)
      (hv : ∃ b ∈ field.value, Header.isVisibleByte b = false)
  | notDecoded (field : Header) (text : String)
      (h : headers.first? Header.proxyAuthorization = some field) (ht : field.text? = some text)
      (hc : Credentials.ofValue? text = none)

/-- The way that decides: a single user, then any named user, then a file, then none. -/
def AuthOptions.deciding (o : AuthOptions) : AuthBackend :=
  if o.singleuserSpec.isSome then .singleUser
  else if o.nonanonymous then .nonAnonymous
  else if o.htpasswdPath.isSome then .htpasswd
  else .disabled

/-- The credentials of a request without credentials. -/
theorem BasicAuth.credentials?_of_lacks {headers : Headers} (h : headers.LacksCredentials) :
    credentials? headers = none := by
  rw [credentials?]
  cases h with
  | noField h =>
    rw [h]
    rfl
  | notVisible field h hv =>
    have ht : field.text? = none := by
      rw [Header.text?, if_neg]
      rw [List.all_eq_true]
      obtain ⟨b, hb, hf⟩ := hv
      intro hall
      rw [hall b hb] at hf
      cases hf
    rw [h]
    simp only [bind, Option.bind, ht]
  | notDecoded field text h ht hc =>
    rw [h]
    simp only [bind, Option.bind, ht, hc]

/-- An authenticator that asks for credentials rejects a request without them. -/
theorem Authenticator.authenticate_of_lacks {a : Authenticator} (ha : a.backend ≠ .disabled)
    {headers : Headers} (h : headers.LacksCredentials) : a.authenticate headers = .rejected := by
  cases a with
  | disabled => exact absurd rfl ha
  | basic auth => rw [authenticate, BasicAuth.credentials?_of_lacks h]

namespace AuthOptions

variable {o : AuthOptions} {w : World}

/-- Nothing is asked for exactly where each of the ways is left out. -/
theorem requested_eq_nil_iff : o.requested = [] ↔
    o.singleuserSpec = none ∧ o.nonanonymous = false ∧ o.htpasswdPath = none := by
  rw [requested]
  cases o.singleuserSpec <;> cases o.nonanonymous <;> cases o.htpasswdPath <;> simp

/-- Nothing decides exactly where nothing is asked for. -/
theorem deciding_eq_disabled_iff : o.deciding = .disabled ↔ o.requested = [] := by
  rw [requested_eq_nil_iff, deciding]
  cases o.singleuserSpec <;> cases o.nonanonymous <;> cases o.htpasswdPath <;> simp

/-- A file decides where neither of the other ways is asked for. -/
theorem deciding_eq_htpasswd_iff : o.deciding = .htpasswd ↔
    o.singleuserSpec = none ∧ o.nonanonymous = false ∧ o.htpasswdPath.isSome = true := by
  rw [deciding]
  cases o.singleuserSpec <;> cases o.nonanonymous <;> cases o.htpasswdPath <;> simp

/-- The way that decides is that of the authenticator. -/
theorem backend_of_select {a : Authenticator} (h : (o.select w).result = .ok a) :
    a.backend = o.deciding := by
  rw [result_select] at h
  obtain ⟨manager, hm, rfl⟩ := exists_of_map_eq_ok h
  rw [deciding]
  cases hs : o.singleuserSpec with
  | some spec =>
    rw [manager?_of_singleuser hs] at hm
    obtain ⟨known, -, rfl⟩ := exists_of_map_eq_ok hm
    rfl
  | none =>
    cases hn : o.nonanonymous with
    | true =>
      rw [manager?_of_nonanonymous hs hn] at hm
      rw [← Except.ok.inj hm]
      rfl
    | false =>
      cases hp : o.htpasswdPath with
      | some path =>
        rw [manager?_of_htpasswd hs hn hp] at hm
        obtain ⟨file, -, rfl⟩ := exists_of_map_eq_ok hm
        rfl
      | none =>
        rw [manager?_of_none hs hn hp] at hm
        rw [← Except.ok.inj hm]
        rfl

/-- The file of a selected authenticator has been loaded from the path that is given. -/
theorem load_of_select {file : Htpasswd} {challenge : List UInt8}
    (h : (o.select w).result = .ok (.basic ⟨.htpasswd file, challenge⟩)) :
    ∃ text path, o.htpasswdPath = some text ∧ w.expandUser text = .ok path ∧
      (Htpasswd.load w path).result = .ok file := by
  obtain ⟨hs, hn, hp⟩ := deciding_eq_htpasswd_iff.mp (backend_of_select h).symm
  obtain ⟨text, hp⟩ := Option.isSome_iff_exists.mp hp
  rw [result_select, manager?_of_htpasswd hs hn hp] at h
  obtain ⟨manager, hm, ha⟩ := exists_of_map_eq_ok h
  obtain ⟨loaded, hl, rfl⟩ := exists_of_map_eq_ok hm
  simp only [Authenticator.ofManager?, Authenticator.basic.injEq, BasicAuth.mk.injEq,
    PasswordManager.htpasswd.injEq] at ha
  obtain ⟨path, he, hl⟩ := Htpasswd.loadNamed_eq_ok_iff.mp hl
  exact ⟨text, path, hp, he, ha.1 ▸ hl⟩

/-- A single user is refused exactly if its specification is. -/
theorem select_singleuser_eq_error_iff {spec : String} (h : o.singleuserSpec = some spec)
    {e : ConfigError} : (o.select w).result = .error e ↔
      spec.toList.count ':' ≠ 1 ∧ e = .invalidFormat .singleUser spec := by
  rw [result_select, manager?_of_singleuser h, ← SingleUser.parse_eq_error_iff]
  simp only [← refusal?_eq_some_iff, refusal?_map]

/-- A file is refused exactly if its path cannot be expanded, or if it cannot be used. -/
theorem select_htpasswd_eq_error_iff {text : String} (hd : o.deciding = .htpasswd)
    (hp : o.htpasswdPath = some text) {e : ConfigError} : (o.select w).result = .error e ↔
      w.expandUser text = .error e ∨
        ∃ path, w.expandUser text = .ok path ∧ Htpasswd.Unusable w path e := by
  obtain ⟨hs, hn, -⟩ := deciding_eq_htpasswd_iff.mp hd
  rw [result_select, manager?_of_htpasswd hs hn hp, ← refusal?_eq_some_iff, refusal?_map,
    refusal?_map, refusal?_eq_some_iff, Htpasswd.loadNamed, bind_eq_error_iff]
  simp only [Htpasswd.load_eq_error_iff]

theorem select_of_requested_eq_nil (h : o.requested = []) :
    (o.select w).result = .ok .disabled := by
  obtain ⟨hs, hn, hp⟩ := requested_eq_nil_iff.mp h
  rw [result_select, manager?_of_none hs hn hp]
  rfl

end AuthOptions

/-- Where authentication is asked for there is a refusal, or an authenticator that rejects every
request without credentials. The deciding way alone is read, and it is refused exactly if its own
data are, or if a file is named in a home directory that there is not; where nothing is asked for
every request is accepted. -/
theorem AuthOptions.select_fails_closed (o : AuthOptions) (w : World) :
    (o.requested ≠ [] → (∃ e, (o.select w).result = .error e) ∨
      ∃ a, (o.select w).result = .ok a ∧ a.backend ≠ .disabled ∧
        ∀ headers : Headers, headers.LacksCredentials → a.authenticate headers = .rejected) ∧
    (∀ a, (o.select w).result = .ok a → a.backend = o.deciding) ∧
    (∀ spec, o.singleuserSpec = some spec → ∀ e, (o.select w).result = .error e ↔
      spec.toList.count ':' ≠ 1 ∧ e = .invalidFormat .singleUser spec) ∧
    (∀ text, o.deciding = .htpasswd → o.htpasswdPath = some text → ∀ e,
      (o.select w).result = .error e ↔ w.expandUser text = .error e ∨
        ∃ path, w.expandUser text = .ok path ∧ Htpasswd.Unusable w path e) ∧
    (o.requested = [] → (o.select w).result = .ok .disabled ∧
      ∀ headers, Authenticator.disabled.authenticate headers = .accepted) := by
  refine ⟨fun hr ↦ ?_, fun a ha ↦ backend_of_select ha,
    fun spec hs e ↦ select_singleuser_eq_error_iff hs,
    fun text hd hp e ↦ select_htpasswd_eq_error_iff hd hp,
    fun hr ↦ ⟨select_of_requested_eq_nil hr, fun headers ↦ rfl⟩⟩
  cases hs : (o.select w).result with
  | error e => exact .inl ⟨e, rfl⟩
  | ok a =>
    have ha : a.backend ≠ .disabled := by
      rw [backend_of_select hs]
      exact fun hd ↦ hr (deciding_eq_disabled_iff.mp hd)
    exact .inr ⟨a, rfl, ha, fun headers h ↦ Authenticator.authenticate_of_lacks ha h⟩

end ProxySettings
