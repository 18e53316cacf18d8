import ProxySettings.Proofs.StoredPasswords

/-!
# SHA-1 digests in files of credentials

Loading a file decodes the text of a digest; a check never does, but writes the digest of a password
as a text and compares the texts. Since a digest is written in one way only, the two agree: a loaded
entry is matched by the passwords with its digest, and no spelling of a digest locks a user out.
-/

namespace ProxySettings

namespace PasswordHash

variable {text other password : String} {digest : List UInt8}

/-- Comparing texts is comparing digests, for a text that denotes one. -/
theorem shaText_eq_iff_of_decode (h : Base64.decode (Utf8.encode text) = .ok digest) :
    shaText password = text ↔ digest = Digest.sha1 (Utf8.encode password) := by
  rw [shaText_eq_iff, Base64.decode_eq_ok_iff.mp h]
  exact ⟨Base64.encode_injective, congrArg Base64.encode⟩

/-- A digest has one text. -/
theorem eq_of_decode (h : Base64.decode (Utf8.encode text) = .ok digest)
    (ho : Base64.decode (Utf8.encode other) = .ok digest) : other = text := by
  rw [Base64.decode_eq_ok_iff] at h ho
  exact Utf8.encode_injective (ho.trans h.symm)

end PasswordHash

namespace Htpasswd

variable {file : Htpasswd} {user text : String}

/-- The check of an entry with a digest compares texts. -/
theorem test_of_sha (he : file.entry? user = some (.sha1, PasswordHash.shaMark ++ text))
    (password : String) :
    file.test user password = .ofBool (PasswordHash.shaText password == text) := by
  rw [test_of_hashed he (by decide), PasswordHash.check_sha]

/-- A loaded entry with the mark of SHA-1 denotes a digest of twenty bytes. It is compared as a
text, and still accepts exactly the passwords with this digest and rejects all others; and no other
text of an entry that could be loaded denotes the digest. -/
theorem sha_entry_matches_digest {w : World} {path : String} {scheme : HashScheme}
    (hl : (load w path).result = .ok file)
    (he : file.entry? user = some (scheme, PasswordHash.shaMark ++ text)) :
    scheme = .sha1 ∧ ∃ digest, Base64.decode (Utf8.encode text) = .ok digest ∧
      digest.length = 20 ∧
      (∀ password,
        (file.test user password = .accepted ↔ PasswordHash.shaText password = text) ∧
        (file.test user password = .accepted ↔ digest = Digest.sha1 (Utf8.encode password)) ∧
        (file.test user password = .rejected ↔ digest ≠ Digest.sha1 (Utf8.encode password))) ∧
      ∀ other s, PasswordHash.scheme (PasswordHash.shaMark ++ other) = .ok s →
        Base64.decode (Utf8.encode other) = .ok digest → other = text := by
  have hform := hasForm_of_mem hl (mem_of_entry?_eq_some he)
  obtain ⟨rfl, digest, hd, hlength⟩ :=
    PasswordHash.scheme_sha_iff.mp (PasswordHash.scheme_eq_ok_iff.mpr hform)
  refine ⟨rfl, digest, hd, hlength, fun password ↦ ?_,
    fun other _ _ ho ↦ PasswordHash.eq_of_decode hd ho⟩
  rw [test_of_sha he, ne_eq, ← PasswordHash.shaText_eq_iff_of_decode hd]
  by_cases ht : PasswordHash.shaText password = text <;> simp [Verdict.ofBool, ht]

/-- The text of the digest of a password. -/
def shaSampleText : String := "qUqP5cyxm6YcTAhz05Hph5gvu9M="

/-- A root directory with a file of one user with the digest. -/
def shaSampleWorld : World :=
  ⟨[(["users"], .file (Utf8.encode ("alice:\x7bSHA\x7d" ++ shaSampleText ++ "\n")))], .ok "/",
    some "/", []⟩

/-- The password of a loaded digest is accepted and another one is rejected. -/
theorem sha_entry_matches_digest_sample :
    ∃ file, (load shaSampleWorld "/users").result = .ok file ∧
      file.entry? "alice" = some (.sha1, PasswordHash.shaMark ++ shaSampleText) ∧
      file.test "alice" "test" = .accepted ∧ file.test "alice" "text" = .rejected := by
  have hf : shaSampleWorld.find "/users" =
      .ok (.file (Utf8.encode ("alice:\x7bSHA\x7d" ++ shaSampleText ++ "\n"))) :=
    World.find_file_of_root ⟨rfl, rfl, by decide⟩ rfl (by decide) rfl
  have hp : parseLines 1 (Text.lines ("alice:\x7bSHA\x7d" ++ shaSampleText ++ "\n")) =
      .ok [("alice", .sha1, PasswordHash.shaMark ++ shaSampleText)] := by
    decide +kernel
  have hl := load_of_text hf hp
  have he : entry? ⟨"/users", [("alice", .sha1, PasswordHash.shaMark ++ shaSampleText)]⟩ "alice" =
      some (.sha1, PasswordHash.shaMark ++ shaSampleText) := rfl
  obtain ⟨-, digest, hd, -, htest, -⟩ := sha_entry_matches_digest hl he
  have hdigest : Base64.decode (Utf8.encode shaSampleText) =
      .ok (Digest.sha1 (Utf8.encode "test")) := by
    decide +kernel
  obtain rfl := Except.ok.inj (hd.symm.trans hdigest)
  exact ⟨_, hl, he, (htest "test").2.1.mpr rfl, (htest "text").2.2.mpr (by decide +kernel)⟩

end Htpasswd

end ProxySettings
