import ProxySettings.Proofs.Credentials
import ProxySettings.Proofs.HashForm

/-!
# What the check of a password answers

Every scheme of hashes has its own algorithm. A check breaks down on exactly the hashes that its
algorithm cannot take apart, whatever the password, and where the beginning of a hash is the one
that the check knows for the scheme, the check accepts exactly the passwords that the algorithm of
the scheme accepts. It accepts nothing where it does not know the beginning.
-/

namespace ProxySettings

theorem Verdict.ofBool_eq_accepted_iff {b : Bool} : ofBool b = accepted ↔ b = true := by
  cases b <;> decide

theorem Verdict.ofBool_ne_broken (b : Bool) : ofBool b ≠ broken := by
  cases b <;> decide

namespace PasswordHash

/-! ## Salted MD5 -/

/-- The text after the beginning of a salted MD5 hash is a salt of eight bytes, a character of one
byte, and the digest. -/
def IsSalted (rest salt digest : String) : Prop :=
  ∃ between : String, rest = salt ++ between ++ digest ∧ salt.utf8ByteSize = 8 ∧
    between.utf8ByteSize = 1

theorem checkApr1_of_salted {rest salt digest : String} (h : IsSalted rest salt digest)
    (password : String) : checkApr1 (apr1Mark ++ rest) password =
      .ofBool (Digest.apr1 (Utf8.encode password) (Utf8.encode salt) == digest) := by
  obtain ⟨between, rfl, hs, hb⟩ := h
  have hmark : apr1Mark.utf8ByteSize = 6 := by decide
  have h14 : splitAtByte? (apr1Mark ++ (salt ++ between ++ digest)) 14 =
      some (apr1Mark ++ salt, between ++ digest) := by
    rw [splitAtByte?_eq_some_iff, String.utf8ByteSize_append, hmark, hs]
    simp only [String.append_assoc, and_true]
  have h15 : splitAtByte? (apr1Mark ++ (salt ++ between ++ digest)) 15 =
      some (apr1Mark ++ salt ++ between, digest) := by
    rw [splitAtByte?_eq_some_iff, String.utf8ByteSize_append, String.utf8ByteSize_append, hmark,
      hs, hb]
    simp only [String.append_assoc, and_true]
  have hd : (Utf8.encode (apr1Mark ++ salt)).drop apr1Mark.length = Utf8.encode salt := by
    have hl : apr1Mark.length = (Utf8.encode apr1Mark).length := by decide
    rw [Utf8.encode_append, hl, List.drop_left]
  rw [checkApr1, h14, h15]
  simp only [hd]

theorem checkApr1_of_not_salted {rest : String} (h : ∀ salt digest, ¬IsSalted rest salt digest)
    (password : String) : checkApr1 (apr1Mark ++ rest) password = .broken := by
  rw [checkApr1]
  split
  · next marked tail _ digest h14 h15 =>
    obtain ⟨ht, hm⟩ := splitAtByte?_eq_some_iff.mp h14
    obtain ⟨hd, hl⟩ := splitAtByte?_eq_some_iff.mp h15
    have hmark : apr1Mark.utf8ByteSize = 6 := by decide
    obtain ⟨salt, rfl, hr⟩ := exists_of_append_eq_append ht (by omega)
    obtain ⟨between, rfl, htail⟩ := exists_of_append_eq_append (ht.symm.trans hd) (by omega)
    simp only [String.utf8ByteSize_append] at hm hl
    refine (h salt digest ⟨between, ?_, by omega, by omega⟩).elim
    rw [hr, htail, String.append_assoc]
  · rfl

/-! ## The algorithm of a hash -/

/-- Of two beginnings of a text one begins the other. -/
theorem append_ne_append {a b : String} (hab : ¬a.toList <+: b.toList)
    (hba : ¬b.toList <+: a.toList) (r s : String) : a ++ r ≠ b ++ s := by
  intro h
  have hl := congrArg String.toList h
  rw [String.toList_append, String.toList_append] at hl
  rcases List.prefix_or_prefix_of_prefix ⟨r.toList, hl⟩ (List.prefix_append b.toList s.toList) with
    hp | hp
  · exact hab hp
  · exact hba hp

theorem after?_append (start rest : String) : after? start (start ++ rest) = some rest :=
  after?_eq_some_iff.mpr rfl

theorem after?_eq_none_iff {start hash : String} :
    after? start hash = none ↔ ∀ rest, hash ≠ start ++ rest := by
  rw [Option.eq_none_iff_forall_ne_some]
  simp only [ne_eq, after?_eq_some_iff]

theorem check_apr1 (rest password : String) :
    check (apr1Mark ++ rest) password = checkApr1 (apr1Mark ++ rest) password := by
  rw [check, after?_append]
  rfl

theorem check_bcrypt (rest password : String) :
    check (bcryptMark ++ rest) password = checkBcrypt (bcryptMark ++ rest) password := by
  have ha : after? apr1Mark (bcryptMark ++ rest) = none :=
    after?_eq_none_iff.mpr (append_ne_append (by decide) (by decide) rest)
  rw [check, ha, after?_append]
  rfl

theorem check_sha (text password : String) :
    check (shaMark ++ text) password = .ofBool (shaText password == text) := by
  have ha : after? apr1Mark (shaMark ++ text) = none :=
    after?_eq_none_iff.mpr (append_ne_append (by decide) (by decide) text)
  have hb : after? bcryptMark (shaMark ++ text) = none :=
    after?_eq_none_iff.mpr (append_ne_append (by decide) (by decide) text)
  rw [check, ha, hb, after?_append]
  rfl

theorem check_other {hash : String} (ha : ∀ rest, hash ≠ apr1Mark ++ rest)
    (hb : ∀ rest, hash ≠ bcryptMark ++ rest) (hs : ∀ text, hash ≠ shaMark ++ text)
    (password : String) : check hash password = checkCrypt hash password := by
  rw [check, after?_eq_none_iff.mpr ha, after?_eq_none_iff.mpr hb, after?_eq_none_iff.mpr hs]
  rfl

theorem checkCrypt_ne_broken (hash password : String) : checkCrypt hash password ≠ .broken := by
  rw [checkCrypt]
  split
  · split
    · exact Verdict.ofBool_ne_broken _
    · nofun
  · nofun

/-! ## Where a check breaks down -/

/-- The check of a hash breaks down: the parts of the hash cannot be told. -/
inductive BreaksCheck : String → Prop where
  | salted (rest : String) (h : ∀ salt digest, ¬IsSalted rest salt digest) :
      BreaksCheck (apr1Mark ++ rest)
  | bcrypt (rest : String) (h : Digest.BcryptHash.parse? (bcryptMark ++ rest) = none) :
      BreaksCheck (bcryptMark ++ rest)

theorem breaksCheck_apr1_iff {rest : String} :
    BreaksCheck (apr1Mark ++ rest) ↔ ∀ salt digest, ¬IsSalted rest salt digest := by
  refine ⟨fun h ↦ ?_, .salted rest⟩
  generalize hh : apr1Mark ++ rest = hash at h
  cases h with
  | salted rest' h => rwa [(String.append_right_inj _).mp hh]
  | bcrypt rest' h => exact (append_ne_append (by decide) (by decide) _ _ hh).elim

theorem breaksCheck_bcrypt_iff {rest : String} :
    BreaksCheck (bcryptMark ++ rest) ↔ Digest.BcryptHash.parse? (bcryptMark ++ rest) = none := by
  refine ⟨fun h ↦ ?_, .bcrypt rest⟩
  generalize hh : bcryptMark ++ rest = hash at h
  cases h with
  | salted rest' h => exact (append_ne_append (by decide) (by decide) _ _ hh).elim
  | bcrypt rest' h => exact h

/-- Whether a check breaks down does not depend on the password. -/
theorem check_eq_broken_iff {hash password : String} :
    check hash password = .broken ↔ BreaksCheck hash := by
  by_cases ha : ∃ rest, hash = apr1Mark ++ rest
  · obtain ⟨rest, rfl⟩ := ha
    rw [check_apr1, breaksCheck_apr1_iff]
    refine ⟨fun hb salt digest hs ↦ ?_, fun h ↦ checkApr1_of_not_salted h password⟩
    rw [checkApr1_of_salted hs] at hb
    exact Verdict.ofBool_ne_broken _ hb
  · by_cases hb : ∃ rest, hash = bcryptMark ++ rest
    · obtain ⟨rest, rfl⟩ := hb
      rw [check_bcrypt, breaksCheck_bcrypt_iff, checkBcrypt]
      cases Digest.BcryptHash.parse? (bcryptMark ++ rest) with
      | none => simp only
      | some h => simp only [Verdict.ofBool_ne_broken, reduceCtorEq]
    · have hn : ¬BreaksCheck hash := by
        rintro (⟨rest, -⟩ | ⟨rest, -⟩)
        · exact ha ⟨rest, rfl⟩
        · exact hb ⟨rest, rfl⟩
      refine ⟨fun h ↦ ?_, fun h ↦ absurd h hn⟩
      by_cases hs : ∃ text, hash = shaMark ++ text
      · obtain ⟨text, rfl⟩ := hs
        rw [check_sha] at h
        exact (Verdict.ofBool_ne_broken _ h).elim
      · rw [check_other (not_exists.mp ha) (not_exists.mp hb) (not_exists.mp hs)] at h
        exact (checkCrypt_ne_broken _ _ h).elim

/-- A text without the mark of any scheme begins with none that the check knows. -/
theorem IsUnmarked.ne_apr1 {hash : String} (h : IsUnmarked hash) (rest : String) :
    hash ≠ apr1Mark ++ rest := by
  intro hr
  exact h.1 ("apr1$" ++ rest) (by rw [hr, ← String.append_assoc]; rfl)

theorem IsUnmarked.ne_bcrypt {hash : String} (h : IsUnmarked hash) (rest : String) :
    hash ≠ bcryptMark ++ rest := by
  intro hr
  exact h.1 ("2y$" ++ rest) (by rw [hr, ← String.append_assoc]; rfl)

theorem IsUnmarked.not_breaksCheck {hash : String} (h : IsUnmarked hash) : ¬BreaksCheck hash := by
  rintro (⟨rest, -⟩ | ⟨rest, -⟩)
  · exact h.ne_apr1 rest rfl
  · exact h.ne_bcrypt rest rfl

/-! ## What a check accepts -/

/-- The algorithm of a scheme accepts a password for a hash. -/
def Accepts (hash password : String) : HashScheme → Prop
  | .apr1 => ∃ rest salt digest, hash = apr1Mark ++ rest ∧ IsSalted rest salt digest ∧
      Digest.apr1 (Utf8.encode password) (Utf8.encode salt) = digest
  | .bcrypt => ∃ h, Digest.BcryptHash.parse? hash = some h ∧
      Digest.bcrypt h.cost h.salt (Utf8.encode password) = h.digest
  | .sha1 => ∃ text, hash = shaMark ++ text ∧
      Utf8.encode text = Base64.encode (Digest.sha1 (Utf8.encode password))
  | .crypt => ∃ a b rest, hash.toList = a :: b :: rest ∧
      Digest.DesCrypt.hash (Utf8.encode password) (a, b) = hash
  | .plain => hash = password

/-- A hash begins as those of a scheme that the check knows: salted MD5 and bcrypt have one
beginning each, and what stands for itself is not checked as a hash. -/
def IsKnown (hash : String) : HashScheme → Prop
  | .apr1 => ∃ rest, hash = apr1Mark ++ rest
  | .bcrypt => ∃ rest, hash = bcryptMark ++ rest
  | _ => True

/-- The text of a SHA-1 hash is the base64 text of the digest. -/
theorem shaText_eq_iff {password text : String} : shaText password = text ↔
    Utf8.encode text = Base64.encode (Digest.sha1 (Utf8.encode password)) := by
  obtain ⟨token, ht⟩ := Credentials.exists_token (Digest.sha1 (Utf8.encode password))
  rw [shaText, ← ht, Utf8.decode?_encode, Option.getD_some]
  constructor
  · rintro rfl
    rfl
  · exact fun h ↦ (Utf8.encode_injective h).symm

/-- The letters, the digits, the dot and the slash are the alphabet of salts. -/
theorem mem_cryptAlphabet {c : Char}
    (h : Text.isAlphanumeric c = true ∨ c = '.' ∨ c = '/') : c ∈ Digest.cryptAlphabet := by
  have hlt : c.toNat < 128 := by
    rcases h with h | rfl | rfl
    · exact Text.toNat_lt_of_isAlphanumeric h
    · decide
    · decide
  have hall : ∀ n < 128, (Text.isAlphanumeric (Char.ofNat n) = true ∨ Char.ofNat n = '.' ∨
      Char.ofNat n = '/') → Char.ofNat n ∈ Digest.cryptAlphabet := by
    decide +kernel
  have hc := hall c.toNat hlt
  rw [Char.ofNat_toNat] at hc
  exact hc h

/-- A dollar sign is no salt. -/
theorem checkCrypt_of_dollar {hash : String} {rest : List Char} (h : hash.toList = '$' :: rest)
    (password : String) : checkCrypt hash password = .rejected := by
  have hd : Digest.cryptAlphabet.contains '$' = false := by decide
  rw [checkCrypt, h]
  cases rest with
  | nil => rfl
  | cons b rest => simp only [hd, Bool.false_and, Bool.false_eq_true, ↓reduceIte]

/-- A text without the mark of any scheme is checked as the first scheme has it. -/
theorem check_of_unmarked {hash : String} (h : IsUnmarked hash) (password : String) :
    check hash password = checkCrypt hash password :=
  check_other h.ne_apr1 h.ne_bcrypt h.2 password

/-- A hash of the first scheme has two characters of salt. -/
theorem exists_salt {hash : String} (h : HasForm hash .crypt) : ∃ a b rest,
    hash.toList = a :: b :: rest ∧ a ∈ Digest.cryptAlphabet ∧ b ∈ Digest.cryptAlphabet := by
  obtain ⟨-, hl, hc⟩ := h
  match hs : hash.toList with
  | [] =>
    have he : hash = "" := String.toList_eq_nil_iff.mp hs
    rw [he] at hl
    cases hl
  | [a] =>
    have ha : hash = String.singleton a := by
      rw [← String.toList_inj, hs, String.toList_singleton]
    have hw := a.utf8Size_le_four
    rw [ha, String.utf8ByteSize_singleton] at hl
    omega
  | a :: b :: rest =>
    rw [hs] at hc
    exact ⟨a, b, rest, rfl, mem_cryptAlphabet (hc a (by simp)), mem_cryptAlphabet (hc b (by simp))⟩

/-- What is checked as a hash of a scheme that the check knows is accepted by the algorithm of the
scheme, and by no other. -/
theorem check_eq_accepted_iff {hash : String} {s : HashScheme} (hf : HasForm hash s)
    (hk : IsKnown hash s) (hp : s ≠ .plain) {password : String} :
    check hash password = .accepted ↔ Accepts hash password s := by
  cases s with
  | apr1 =>
    obtain ⟨rest, rfl⟩ := hk
    rw [check_apr1, Accepts]
    constructor
    · intro h
      by_cases hs : ∃ salt digest, IsSalted rest salt digest
      · obtain ⟨salt, digest, hs⟩ := hs
        rw [checkApr1_of_salted hs, Verdict.ofBool_eq_accepted_iff, beq_iff_eq] at h
        exact ⟨rest, salt, digest, rfl, hs, h⟩
      · rw [checkApr1_of_not_salted fun salt digest hd ↦ hs ⟨salt, digest, hd⟩] at h
        cases h
    · rintro ⟨rest', salt, digest, hr, hs, hd⟩
      obtain rfl := (String.append_right_inj _).mp hr
      rw [checkApr1_of_salted hs, Verdict.ofBool_eq_accepted_iff, beq_iff_eq]
      exact hd
  | bcrypt =>
    obtain ⟨rest, rfl⟩ := hk
    rw [check_bcrypt, Accepts, checkBcrypt]
    cases Digest.BcryptHash.parse? (bcryptMark ++ rest) with
    | none => simp only [reduceCtorEq, false_and, exists_false]
    | some h =>
      simp only [Verdict.ofBool_eq_accepted_iff, Digest.BcryptHash.verify, beq_iff_eq,
        Option.some.injEq, exists_eq_left']
  | sha1 =>
    obtain ⟨_, text, -, rfl, -⟩ := hf
    rw [check_sha, Verdict.ofBool_eq_accepted_iff, beq_iff_eq, shaText_eq_iff, Accepts]
    constructor
    · exact fun h ↦ ⟨text, rfl, h⟩
    · rintro ⟨text', ht, h⟩
      rwa [(String.append_right_inj _).mp ht]
  | crypt =>
    obtain ⟨a, b, rest, hs, ha, hb⟩ := exists_salt hf
    rw [check_of_unmarked hf.1, checkCrypt, Accepts, hs]
    simp only [List.contains_iff_mem.mpr ha, List.contains_iff_mem.mpr hb, Bool.and_self,
      ↓reduceIte, Verdict.ofBool_eq_accepted_iff, beq_iff_eq]
    constructor
    · exact fun h ↦ ⟨a, b, rest, rfl, h⟩
    · rintro ⟨a', b', rest', hl, h⟩
      simp only [List.cons.injEq] at hl
      rwa [hl.1, hl.2.1]
  | plain => exact absurd rfl hp

/-- A hash names one scheme. -/
theorem Names.unique {hash a b : String} (ha : Names hash a) (hb : Names hash b)
    (hna : '$' ∉ a.toList) (hnb : '$' ∉ b.toList) : a = b := by
  obtain ⟨rest, hr, rfl⟩ := (names_iff hna).mp ha
  obtain ⟨rest', hr', rfl⟩ := (names_iff hnb).mp hb
  rw [(List.cons.inj (hr.symm.trans hr')).2]

theorem names_apr1 (rest : String) : Names (apr1Mark ++ rest) "apr1" := .inr ⟨rest, rfl⟩

theorem names_bcrypt (rest : String) : Names (bcryptMark ++ rest) "2y" := .inr ⟨rest, rfl⟩

/-- After a dollar sign there are two beginnings that the check knows. -/
theorem check_of_names {hash name : String} (h : Names hash name)
    (ha : ∀ rest, hash ≠ apr1Mark ++ rest) (hb : ∀ rest, hash ≠ bcryptMark ++ rest)
    (password : String) : check hash password = .rejected := by
  obtain ⟨rest, hr⟩ := h.exists_toList
  rw [check_other ha hb (fun text ht ↦ sha_ne_dollar ht rest hr)]
  exact checkCrypt_of_dollar hr password

/-- Where the check does not know the beginning it rejects every password. -/
theorem check_of_not_known {hash : String} {s : HashScheme} (hf : HasForm hash s)
    (hk : ¬IsKnown hash s) (password : String) : check hash password = .rejected := by
  cases s with
  | apr1 =>
    refine check_of_names hf (not_exists.mp hk) (fun rest hr ↦ ?_) password
    subst hr
    exact absurd (hf.unique (names_bcrypt rest) (by decide) (by decide)) (by decide)
  | bcrypt =>
    have hne (name : String) (hn : Names hash name) (hd : '$' ∉ name.toList)
        (hna : name ≠ "apr1") : ∀ rest, hash ≠ apr1Mark ++ rest := by
      rintro rest rfl
      exact hna (hn.unique (names_apr1 rest) hd (by decide))
    rcases hf with hn | hn | hn
    · exact check_of_names hn (hne _ hn (by decide) (by decide)) (not_exists.mp hk) password
    · exact check_of_names hn (hne _ hn (by decide) (by decide)) (not_exists.mp hk) password
    · exact check_of_names hn (hne _ hn (by decide) (by decide)) (not_exists.mp hk) password
  | sha1 => exact absurd trivial hk
  | crypt => exact absurd trivial hk
  | plain => exact absurd trivial hk

end PasswordHash

end ProxySettings
