import ProxySettings.Proofs.Credentials
import ProxySettings.Proofs.Resolution

/-!
# What a single user has to send

The authenticator of a single user accepts exactly the requests whose first field for credentials
carries the base64 text of the user's specification. No other token is accepted, and no later field
counts.
-/

namespace ProxySettings

/-! ## Tokens that are carried -/

/-- A value carries a token: it shows in ASCII, and it is the word of the scheme, whose case does
not count, and the token, with blanks between and around them. -/
def Header.Carries (value token : List UInt8) : Prop :=
  (∀ b ∈ value, isVisibleByte b = true) ∧ ∃ (before between after : List UInt8) (scheme : String),
    value = before ++ Utf8.encode scheme ++ between ++ token ++ after ∧
      (∀ b ∈ before ++ between ++ after, b = 32 ∨ b = 9) ∧ between ≠ [] ∧
      Text.eqIgnoringCase scheme "basic" = true

/-- The first field for credentials carries a token. -/
def Headers.Presents (fields : List (String × List UInt8)) (token : List UInt8) : Prop :=
  ∃ before name value after, fields = before ++ (name, value) :: after ∧
    Text.eqIgnoringCase name "Proxy-Authorization" = true ∧
    (∀ f ∈ before, Text.eqIgnoringCase f.1 "Proxy-Authorization" = false) ∧
    Header.Carries value token

/-! ## Values -/

/-- A value is read as credentials exactly if it carries their token. -/
theorem Header.exists_ofValue?_iff {field : Header} {known : Credentials}
    (hu : ':' ∉ known.user.toList) :
    (∃ text, field.text? = some text ∧ Credentials.ofValue? text = some known) ↔
      Carries field.value
        (Base64.encode (Utf8.encode (known.user ++ ":" ++ known.password))) := by
  simp only [text?_eq_some_iff, Credentials.ofValue?_eq_some_iff]
  constructor
  · rintro ⟨_, ⟨hv, rfl⟩, word, token, hw, he, ht⟩
    obtain ⟨before, between, after, hval, hb, hne, -, -⟩ := (words_eq_pair_iff hv).mp hw
    rw [(Credentials.ofToken?_eq_some_iff.mp ht).2] at hval
    exact ⟨hv, before, between, after, word, hval, hb, hne, he⟩
  · rintro ⟨hv, before, between, after, word, hval, hb, hne, he⟩
    obtain ⟨token, htoken⟩ := Credentials.exists_token
      (Utf8.encode (known.user ++ ":" ++ known.password))
    have hcolon : known.user ++ ":" ++ known.password ≠ "" := by
      intro hn
      have hl := congrArg String.toList hn
      simp at hl
    rw [← htoken] at hval
    have hw := (words_eq_pair_iff hv).mpr ⟨before, between, after, hval, hb, hne,
      Credentials.scheme_isWord he, Credentials.token_isWord hcolon htoken⟩
    exact ⟨_, ⟨hv, rfl⟩, word, token, hw, he, Credentials.ofToken?_eq_some_iff.mpr ⟨hu, htoken⟩⟩

/-- A request has the credentials whose token it presents. -/
theorem BasicAuth.credentials?_ofFields_iff {fields : List (String × List UInt8)}
    {known : Credentials} (hu : ':' ∉ known.user.toList) :
    credentials? (Headers.ofFields fields) = some known ↔ Headers.Presents fields
      (Base64.encode (Utf8.encode (known.user ++ ":" ++ known.password))) := by
  have hc : credentials? (Headers.ofFields fields) = some known ↔
      ∃ field, (Headers.ofFields fields).first? Header.proxyAuthorization = some field ∧
        ∃ text, field.text? = some text ∧ Credentials.ofValue? text = some known := by
    rw [credentials?]
    simp only [bind, Option.bind_eq_some_iff]
  rw [hc, Headers.first?_ofFields]
  simp only [Header.exists_ofValue?_iff hu, Option.map_eq_some_iff,
    List.find?_eq_some_iff_append]
  constructor
  · rintro ⟨_, ⟨⟨name, value⟩, ⟨hn, before, after, hf, hb⟩, rfl⟩, hcarries⟩
    exact ⟨before, name, value, after, hf, hn, fun f h ↦ by simpa using hb f h, hcarries⟩
  · rintro ⟨before, name, value, after, hf, hn, hb, hcarries⟩
    refine ⟨_, ⟨(name, value), ⟨hn, before, after, hf, fun f h ↦ ?_⟩, rfl⟩, hcarries⟩
    rw [hb f h]
    rfl

/-! ## Requests -/

/-- An authenticator admits the requests that present one token, and rejects all others. -/
def Authenticator.AdmitsOnly (a : Authenticator) (token : List UInt8) : Prop :=
  ∀ fields : List (String × List UInt8),
    (a.authenticate (Headers.ofFields fields) = .accepted ↔ Headers.Presents fields token) ∧
      (a.authenticate (Headers.ofFields fields) = .rejected ↔ ¬Headers.Presents fields token)

/-- A single user answers with credentials that are the known ones. -/
theorem Authenticator.admitsOnly_singleUser {known : Credentials} (hu : ':' ∉ known.user.toList)
    (challenge : List UInt8) :
    (basic ⟨.singleUser known, challenge⟩).AdmitsOnly
      (Base64.encode (Utf8.encode (known.user ++ ":" ++ known.password))) := by
  intro fields
  rw [← BasicAuth.credentials?_ofFields_iff hu, authenticate]
  cases BasicAuth.credentials? (Headers.ofFields fields) with
  | none => simp
  | some given =>
    by_cases hg : given = known
    · simp [PasswordManager.test, Verdict.ofBool, hg]
    · simp [PasswordManager.test, Verdict.ofBool, hg]

theorem AuthOptions.select_singleUser {spec : String} (h : spec.toList.count ':' = 1)
    {o : AuthOptions} (ho : o.singleuser = some spec) (w : World) :
    ∃ a, (o.select w).result = .ok a ∧ a.AdmitsOnly (Base64.encode (Utf8.encode spec)) := by
  have hs : o.singleuserSpec = some spec := by
    have hne : spec ≠ "" := by
      rintro rfl
      exact absurd h (by decide)
    rw [singleuserSpec, ho, nonEmpty]
    simp [hne]
  obtain ⟨known, hp⟩ := SingleUser.exists_parse_iff.mpr h
  obtain ⟨hspec, hu, -⟩ := SingleUser.parse_eq_ok_iff.mp hp
  have he : spec = known.user ++ ":" ++ known.password := by
    rw [← String.toList_inj, hspec]
    simp
  refine ⟨_, ?_, he ▸ Authenticator.admitsOnly_singleUser hu
    (Utf8.encode (BasicAuth.challengeText realm))⟩
  rw [result_select, manager?_of_singleuser hs, hp]
  rfl

/-- A specification with one colon admits exactly the requests whose first field for credentials
carries its base64 text, both by itself and in a configuration. -/
theorem single_user_admits_only (spec : String) (h : spec.toList.count ':' = 1) :
    (∀ (o : AuthOptions) (w : World), o.singleuser = some spec →
      ∃ a, (o.select w).result = .ok a ∧ a.AdmitsOnly (Base64.encode (Utf8.encode spec))) ∧
    ∀ (w : World) (s : Settings) (resolver : Option Resolver) (c : Config),
      s.authSingleuser = some spec → (Config.resolve w s resolver).result = .ok c →
        c.authenticator.AdmitsOnly (Base64.encode (Utf8.encode spec)) := by
  refine ⟨fun o w ho ↦ AuthOptions.select_singleUser h ho w, fun w s resolver c hs hc ↦ ?_⟩
  obtain ⟨a, ha, had⟩ := AuthOptions.select_singleUser (o := s.authOptions) h hs w
  have hr := (Config.resolvedFrom_of_resolve hc).authenticator_eq
  rw [ha] at hr
  rwa [← Except.ok.inj hr]

/-- The first field counts, whatever the case of its name and of the scheme, and a request without
fields is rejected. -/
theorem single_user_admits_only_sample :
    "alice:wonderland".toList.count ':' = 1 ∧
      ∃ a, (AuthOptions.select ⟨false, some "alice:wonderland", none⟩
          ⟨[], .ok "/", some "/", []⟩).result = .ok a ∧
        a.authenticate (Headers.ofFields
          [("Host", []), ("PROXY-Authorization", Utf8.encode "bAsIc \t YWxpY2U6d29uZGVybGFuZA== "),
            ("Proxy-Authorization", Utf8.encode "Basic")]) = .accepted ∧
        a.authenticate (Headers.ofFields []) = .rejected := by
  have h : "alice:wonderland".toList.count ':' = 1 := by decide
  obtain ⟨a, ha, had⟩ := (single_user_admits_only "alice:wonderland" h).1
    ⟨false, some "alice:wonderland", none⟩ ⟨[], .ok "/", some "/", []⟩ rfl
  refine ⟨h, a, ha, (had _).1.mpr ?_, (had []).2.mpr ?_⟩
  · refine ⟨[("Host", [])], "PROXY-Authorization", _, _, rfl, by decide, by decide,
      List.all_eq_true.mp (by decide), ?_⟩
    exact ⟨[], [32, 9, 32], [32], "bAsIc", by decide +kernel, by simp, by decide, by decide⟩
  · rintro ⟨before, name, value, after, hf, -⟩
    simp at hf

end ProxySettings
