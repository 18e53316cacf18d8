import ProxySettings.Proofs.Authentication
import ProxySettings.Proofs.BcryptText
import ProxySettings.Proofs.CredentialEntries
import ProxySettings.Proofs.PathWalk
import ProxySettings.Proofs.Resolution

/-!
# Passwords against files of credentials

The last entry of a user answers. Reading a file looks at the beginning of a hash, and a check looks
at its parts: a check breaks down where the parts cannot be told, whatever the password, and it
accepts no password where a hash begins in a way that reading knows and the check does not.
-/

namespace ProxySettings

/-! ## Answers of a file -/

namespace Htpasswd

variable {w : World} {path : String} {file : Htpasswd}

/-- A hash that is not the password itself is checked as a hash. -/
theorem test_of_hashed {user hash : String} {scheme : HashScheme}
    (he : file.entry? user = some (scheme, hash)) (hp : scheme ≠ .plain) (password : String) :
    file.test user password = PasswordHash.check hash password := by
  rw [test, he]
  cases scheme with
  | plain => exact absurd rfl hp
  | apr1 => rfl
  | bcrypt => rfl
  | sha1 => rfl
  | crypt => rfl

theorem test_of_plain {user text : String} (he : file.entry? user = some (.plain, text))
    (password : String) : file.test user password = .ofBool (text == password) := by
  rw [test, he]

/-- A test breaks down exactly where the user's hash breaks a check. -/
theorem test_eq_broken_iff (hl : (load w path).result = .ok file) {user password : String} :
    file.test user password = .broken ↔ ∃ scheme hash,
      file.entry? user = some (scheme, hash) ∧ PasswordHash.BreaksCheck hash := by
  cases he : file.entry? user with
  | none =>
    rw [test, he]
    simp
  | some entry =>
    obtain ⟨scheme, hash⟩ := entry
    have hiff : file.test user password = .broken ↔ PasswordHash.BreaksCheck hash := by
      by_cases hp : scheme = .plain
      · subst hp
        rw [test_of_plain he]
        have hu := (hasForm_of_mem hl (mem_of_entry?_eq_some he)).1
        exact ⟨fun h ↦ (Verdict.ofBool_ne_broken _ h).elim,
          fun h ↦ (hu.not_breaksCheck h).elim⟩
      · rw [test_of_hashed he hp, PasswordHash.check_eq_broken_iff]
    rw [hiff]
    simp

/-- A test accepts a password exactly where the check knows how the user's hash begins and the
algorithm of its scheme accepts the password. -/
theorem test_eq_accepted_iff (hl : (load w path).result = .ok file) {user hash : String}
    {scheme : HashScheme} (he : file.entry? user = some (scheme, hash)) {password : String} :
    file.test user password = .accepted ↔
      PasswordHash.IsKnown hash scheme ∧ PasswordHash.Accepts hash password scheme := by
  by_cases hp : scheme = .plain
  · subst hp
    rw [test_of_plain he, Verdict.ofBool_eq_accepted_iff, beq_iff_eq]
    exact ⟨fun h ↦ ⟨trivial, h⟩, fun h ↦ h.2⟩
  · have hf := hasForm_of_mem hl (mem_of_entry?_eq_some he)
    rw [test_of_hashed he hp]
    by_cases hk : PasswordHash.IsKnown hash scheme
    · rw [PasswordHash.check_eq_accepted_iff hf hk hp]
      exact ⟨fun h ↦ ⟨hk, h⟩, fun h ↦ h.2⟩
    · rw [PasswordHash.check_of_not_known hf hk]
      exact ⟨(nomatch ·), fun h ↦ absurd h.1 hk⟩

end Htpasswd

/-! ## Written bcrypt hashes -/

namespace PasswordHash

open Digest (BcryptHash)

variable {name : String} {h : BcryptHash}

theorem names_text (name : String) (h : BcryptHash) : Names (h.text name) name := by
  refine .inr ⟨String.ofList (BcryptHash.costChars h.cost) ++ "$" ++
    String.ofList (Digest.bcryptChars h.salt ++ Digest.bcryptChars h.digest), ?_⟩
  simp only [BcryptHash.text, String.append_assoc]

/-- The check knows a written bcrypt hash by one name of the scheme. -/
theorem isKnown_text_iff (hn : '$' ∉ name.toList) :
    IsKnown (h.text name) .bcrypt ↔ name = "2y" := by
  constructor
  · rintro ⟨rest, hr⟩
    exact (names_text name h).unique (hr ▸ names_bcrypt rest) hn (by decide)
  · rintro rfl
    exact ⟨_, by simp only [BcryptHash.text, bcryptMark, String.append_assoc]; rfl⟩

/-- The algorithm takes a written hash for what it was written from, under every name. -/
theorem accepts_text_iff (hn : '$' ∉ name.toList) (hne : name ≠ "") (hp : h.IsProper)
    {password : String} : Accepts (h.text name) password .bcrypt ↔
      Digest.bcrypt h.cost h.salt (Utf8.encode password) = h.digest := by
  simp only [Accepts, BcryptHash.parse?_text hn hne hp, Option.some.injEq, exists_eq_left']

end PasswordHash

/-! ## Answers to requests -/

/-- Only the hash of a user in a file breaks an authenticator. -/
theorem Authenticator.authenticate_eq_broken_iff {a : Authenticator} {headers : Headers} :
    a.authenticate headers = .broken ↔ ∃ file challenge given,
      a = .basic ⟨.htpasswd file, challenge⟩ ∧ BasicAuth.credentials? headers = some given ∧
        file.test given.user given.password = .broken := by
  cases a with
  | disabled => simp [authenticate]
  | basic auth =>
    obtain ⟨manager, challenge⟩ := auth
    rw [authenticate]
    cases BasicAuth.credentials? headers with
    | none => simp
    | some given =>
      cases manager with
      | nonAnonymous => simp [PasswordManager.test, Verdict.ofBool_ne_broken]
      | singleUser known => simp [PasswordManager.test, Verdict.ofBool_ne_broken]
      | htpasswd file => simp [PasswordManager.test]

/-- The file of a selected authenticator has been loaded. -/
theorem AuthOptions.exists_load_of_select {o : AuthOptions} {w : World} {file : Htpasswd}
    {challenge : List UInt8}
    (h : (o.select w).result = .ok (.basic ⟨.htpasswd file, challenge⟩)) :
    ∃ path, (Htpasswd.load w path).result = .ok file := by
  obtain ⟨text, path, -, -, hl⟩ := load_of_select h
  exact ⟨path, hl⟩

/-! ## A file of three users -/

namespace Htpasswd

/-- A bcrypt hash under the first name of the scheme. -/
def sampleHash : String := "$2a$04$abcdefghijklmnopqrstuuoD8yw7MmybLKVooaTGGZAt3HXugv2.a"

/-- A password, the hash, and a beginning of salted MD5 without a salt. -/
def sampleText : String := "alice:secret\nbob:" ++ sampleHash ++ "\ncarol:$apr1$short\n"

/-- A root directory with the file. -/
def sampleWorld : World :=
  ⟨[(["users"], .file (Utf8.encode sampleText))], .ok "/", some "/", []⟩

/-- The entries of the file. -/
def sampleFile : Htpasswd := ⟨"/users",
  [("alice", .plain, "secret"), ("bob", .bcrypt, sampleHash), ("carol", .apr1, "$apr1$short")]⟩

private theorem load_sampleFile : (load sampleWorld "/users").result = .ok sampleFile := by
  have hf : sampleWorld.find "/users" = .ok (.file (Utf8.encode sampleText)) :=
    World.find_file_of_root ⟨rfl, rfl, by decide⟩ rfl (by decide) rfl
  have hp : parseLines 1 (Text.lines sampleText) = .ok sampleFile.entries := by
    have hl : Text.lines sampleText =
        ["alice:secret", "bob:" ++ sampleHash, "carol:$apr1$short"] := rfl
    rw [hl]
    exact parseLines_cons rfl rfl (parseLines_cons rfl rfl (parseLines_cons rfl rfl rfl))
  exact load_of_text hf hp

/-- The salt of the last user is cut short. -/
private theorem breaksCheck_sample : PasswordHash.BreaksCheck "$apr1$short" := by
  refine .salted "short" fun salt digest ⟨between, hr, hs, hb⟩ ↦ ?_
  have hl := congrArg String.utf8ByteSize hr
  have h5 : "short".utf8ByteSize = 5 := by decide
  rw [h5, String.utf8ByteSize_append, String.utf8ByteSize_append] at hl
  omega

end Htpasswd

/-- Settings that ask for the file. -/
def Htpasswd.sampleSettings : Settings := { Settings.default with authHtpasswd := some "/users" }

/-- A test of a loaded file breaks down exactly where the last entry of the user has a hash that a
check cannot take apart, and a request breaks a configuration exactly if it carries credentials of
such a user. -/
theorem stored_password_breaks_iff (w : World) :
    (∀ path file, (Htpasswd.load w path).result = .ok file → ∀ user password,
      file.test user password = .broken ↔ ∃ scheme hash,
        file.entry? user = some (scheme, hash) ∧ PasswordHash.BreaksCheck hash) ∧
    ∀ s resolver c, (Config.resolve w s resolver).result = .ok c → ∀ headers,
      c.authenticator.authenticate headers = .broken ↔ ∃ file challenge given scheme hash,
        c.authenticator = .basic ⟨.htpasswd file, challenge⟩ ∧
          BasicAuth.credentials? headers = some given ∧
          file.entry? given.user = some (scheme, hash) ∧ PasswordHash.BreaksCheck hash := by
  refine ⟨fun path file hl user password ↦ Htpasswd.test_eq_broken_iff hl,
    fun s resolver c hc headers ↦ ?_⟩
  rw [Authenticator.authenticate_eq_broken_iff]
  have hselect := (Config.resolvedFrom_of_resolve hc).authenticator_eq
  constructor
  · rintro ⟨file, challenge, given, ha, hg, ht⟩
    rw [ha] at hselect
    obtain ⟨path, hl⟩ := AuthOptions.exists_load_of_select hselect
    obtain ⟨scheme, hash, he, hb⟩ := (Htpasswd.test_eq_broken_iff hl).mp ht
    exact ⟨file, challenge, given, scheme, hash, ha, hg, he, hb⟩
  · rintro ⟨file, challenge, given, scheme, hash, ha, hg, he, hb⟩
    rw [ha] at hselect
    obtain ⟨path, hl⟩ := AuthOptions.exists_load_of_select hselect
    exact ⟨file, challenge, given, ha, hg,
      (Htpasswd.test_eq_broken_iff hl).mpr ⟨scheme, hash, he, hb⟩⟩

/-- A file that loads breaks down on a password. -/
theorem stored_password_breaks_loaded :
    (Htpasswd.load Htpasswd.sampleWorld "/users").result = .ok Htpasswd.sampleFile ∧
      Htpasswd.sampleFile.test "carol" "x" = .broken :=
  ⟨Htpasswd.load_sampleFile, (Htpasswd.test_eq_broken_iff Htpasswd.load_sampleFile).mpr
    ⟨.apr1, "$apr1$short", rfl, Htpasswd.breaksCheck_sample⟩⟩

/-- A request with a user of the file and any password breaks a configuration. -/
theorem stored_password_breaks_request :
    ∃ c, (Config.resolve Htpasswd.sampleWorld Htpasswd.sampleSettings none).result = .ok c ∧
      c.authenticator.authenticate (Headers.ofFields
        [("Proxy-Authorization", Utf8.encode "Basic Y2Fyb2w6eA==")]) = .broken := by
  have ha : (Htpasswd.sampleSettings.authOptions.select Htpasswd.sampleWorld).result =
      .ok (Authenticator.ofManager? (some (.htpasswd Htpasswd.sampleFile))) := by
    have hl : Htpasswd.loadNamed Htpasswd.sampleWorld "/users" = .ok Htpasswd.sampleFile :=
      Htpasswd.loadNamed_eq_ok_iff.mpr ⟨"/users", rfl, Htpasswd.load_sampleFile⟩
    rw [AuthOptions.result_select, AuthOptions.manager?_of_htpasswd rfl rfl rfl, hl]
    rfl
  obtain ⟨c, hc⟩ : ∃ c, (Config.resolve Htpasswd.sampleWorld Htpasswd.sampleSettings none).result =
      .ok c := by
    have hr : Htpasswd.sampleSettings.requirements none = [.exclusive [], .exclusive [.htpasswd],
        .size none, .form none, .form none, .resolver false none, .server none, .server none,
        .directory none, .backend Htpasswd.sampleSettings.authOptions,
        .authorityDir "~/.mitmproxy", .authority "~/.mitmproxy", .label "secure",
        .label "secure"] := rfl
    have hb : Requirement.fault? Htpasswd.sampleWorld
        (.backend Htpasswd.sampleSettings.authOptions) = none := by
      rw [← AuthOptions.refusal?_select, ha]
      rfl
    have hp : Requirement.fault? Htpasswd.sampleWorld (.authority "~/.mitmproxy") = none := by
      have hj : World.join "/.mitmproxy" "mitmproxy-ca.pem" = "/.mitmproxy/mitmproxy-ca.pem" := by
        decide +kernel
      have hfind : Htpasswd.sampleWorld.find "/.mitmproxy/mitmproxy-ca.pem" =
          .error .notFound := by
        have hc : World.components "/.mitmproxy/mitmproxy-ca.pem" =
            ["", ".mitmproxy", "mitmproxy-ca.pem"] := rfl
        refine World.find_of_walk_error ⟨rfl, rfl, by decide⟩ ?_
        rw [hc, World.walk_empty]
        exact World.walk_missing (by decide) rfl
      rw [Requirement.fault?_eq_none_iff]
      intro dir hd bytes hfile
      have ha : Htpasswd.sampleWorld.absolute "~/.mitmproxy" = .ok "/.mitmproxy" := by
        decide +kernel
      obtain rfl : "/.mitmproxy" = dir := Except.ok.inj (ha.symm.trans hd)
      rw [hj, hfind] at hfile
      cases hfile
    rw [(Config.refused_resolve _ _ _).ok_iff, hr]
    simp only [List.forall_mem_cons, hb, hp]
    exact ⟨rfl, rfl, rfl, rfl, rfl, rfl, rfl, rfl, rfl, trivial, rfl, trivial, rfl, rfl,
      List.forall_mem_nil _⟩
  refine ⟨c, hc, ((stored_password_breaks_iff _).2 _ _ _ hc _).mpr ?_⟩
  have hr := (Config.resolvedFrom_of_resolve hc).authenticator_eq
  rw [ha] at hr
  exact ⟨Htpasswd.sampleFile, _, ⟨"carol", "x"⟩, .apr1, "$apr1$short", (Except.ok.inj hr).symm, rfl,
    rfl, Htpasswd.breaksCheck_sample⟩

/-- The answer of a loaded file to a user with an entry: the check knows the beginning of the hash
and the algorithm of the entry's scheme decides, or every password is rejected. -/
theorem stored_password_answer {w : World} {path : String} {file : Htpasswd}
    (hl : (Htpasswd.load w path).result = .ok file) {user hash : String} {scheme : HashScheme}
    (he : file.entry? user = some (scheme, hash)) :
    PasswordHash.HasForm hash scheme ∧
      (PasswordHash.IsKnown hash scheme → ∀ password,
        (file.test user password = .accepted ↔ PasswordHash.Accepts hash password scheme) ∧
        (file.test user password = .broken ↔ PasswordHash.BreaksCheck hash)) ∧
      (¬PasswordHash.IsKnown hash scheme → ∀ password,
        file.test user password = .rejected) := by
  have hf := Htpasswd.hasForm_of_mem hl (Htpasswd.mem_of_entry?_eq_some he)
  refine ⟨hf, fun hk password ↦ ⟨?_, ?_⟩, fun hk password ↦ ?_⟩
  · rw [Htpasswd.test_eq_accepted_iff hl he]
    exact ⟨fun h ↦ h.2, fun h ↦ ⟨hk, h⟩⟩
  · rw [Htpasswd.test_eq_broken_iff hl, he]
    simp
  · have hp : scheme ≠ .plain := by
      rintro rfl
      exact hk trivial
    rw [Htpasswd.test_of_hashed he hp]
    exact PasswordHash.check_of_not_known hf hk password

/-- A password that stands for itself is accepted, and a bcrypt hash under a name that the check
does not know accepts no password. -/
theorem stored_password_answer_sample :
    (Htpasswd.load Htpasswd.sampleWorld "/users").result = .ok Htpasswd.sampleFile ∧
      Htpasswd.sampleFile.test "alice" "secret" = .accepted ∧
      ∀ password, Htpasswd.sampleFile.test "bob" password = .rejected := by
  refine ⟨Htpasswd.load_sampleFile, ?_, ?_⟩
  · have he : Htpasswd.sampleFile.entry? "alice" = some (.plain, "secret") := rfl
    exact (((stored_password_answer Htpasswd.load_sampleFile he).2.1 trivial "secret").1).mpr rfl
  · have he : Htpasswd.sampleFile.entry? "bob" = some (.bcrypt, Htpasswd.sampleHash) := rfl
    refine (stored_password_answer Htpasswd.load_sampleFile he).2.2 ?_
    rintro ⟨rest, hr⟩
    have hn : PasswordHash.Names Htpasswd.sampleHash "2a" :=
      .inr ⟨"04$abcdefghijklmnopqrstuuoD8yw7MmybLKVooaTGGZAt3HXugv2.a", rfl⟩
    exact absurd (hn.unique (hr ▸ PasswordHash.names_bcrypt rest) (by decide) (by decide))
      (by decide)

/-- The hash of a password by the algorithm of its scheme is read as one of the scheme, and the
password is rejected. -/
theorem bcrypt_name_locks_out :
    let hash :=
      (Digest.BcryptHash.ofPassword 4 (List.replicate 16 0) (Utf8.encode "test")).text "2a"
    Htpasswd.parseLine ("bob:" ++ hash) = .ok ("bob", .bcrypt, hash) ∧
      PasswordHash.Accepts hash "test" .bcrypt ∧
      Htpasswd.test ⟨"/users", [("bob", .bcrypt, hash)]⟩ "bob" "test" = .rejected := by
  intro hash
  have hn : '$' ∉ "2a".toList := by decide
  have hp : (Digest.BcryptHash.ofPassword 4 (List.replicate 16 0) (Utf8.encode "test")).IsProper :=
    Digest.BcryptHash.isProper_ofPassword (by decide) (by decide) _
  have hf : PasswordHash.HasForm hash .bcrypt := .inl (PasswordHash.names_text "2a" _)
  have hk : ¬PasswordHash.IsKnown hash .bcrypt := by
    rw [PasswordHash.isKnown_text_iff hn]
    decide
  refine ⟨Htpasswd.parseLine_eq_ok_iff.mpr ⟨rfl, by decide, by decide, hf⟩,
    (PasswordHash.accepts_text_iff hn (by decide) hp).mpr rfl, ?_⟩
  have he : Htpasswd.entry? ⟨"/users", [("bob", .bcrypt, hash)]⟩ "bob" = some (.bcrypt, hash) := rfl
  rw [Htpasswd.test_of_hashed he (by decide)]
  exact PasswordHash.check_of_not_known hf hk "test"

end ProxySettings
