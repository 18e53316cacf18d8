import ProxySettings.Auth.PasswordHash
import ProxySettings.Proofs.Base64
import ProxySettings.Proofs.Utf8

/-!
# The forms of hashes

The scheme of a hash is told from its beginning: `$` and a name, or the mark of a SHA-1 digest. A
hash is taken for one of a scheme exactly if it has the form of the scheme, and a hash that begins
in neither way is one of thirteen characters of an alphabet, or the password itself.
-/

namespace ProxySettings.PasswordHash

/-! ## Parts of texts -/

/-- What is left after a beginning is the rest of the text. -/
theorem after?_eq_some_iff {start hash rest : String} :
    after? start hash = some rest ↔ hash = start ++ rest := by
  rw [after?, ← String.toList_inj, String.toList_append]
  split
  · next h =>
    obtain ⟨tail, ht⟩ := List.isPrefixOf_iff_prefix.mp h
    rw [← ht, ← String.length_toList, List.drop_left, List.append_cancel_left_eq, Option.some.injEq,
      ← String.toList_inj, String.toList_ofList]
  · next h =>
    constructor
    · intro he
      cases he
    · intro he
      exact absurd (List.isPrefixOf_iff_prefix.mpr ⟨rest.toList, he.symm⟩) h

/-- A text is cut where its first part has the right number of bytes. -/
theorem splitAtByte?_eq_some_iff {text before after : String} {offset : Nat} :
    splitAtByte? text offset = some (before, after) ↔
      text = before ++ after ∧ before.utf8ByteSize = offset := by
  rw [splitAtByte?]
  constructor
  · intro h
    split at h
    · cases h
    · next hl =>
      obtain ⟨b, hb, h⟩ := Option.bind_eq_some_iff.mp h
      obtain ⟨a, ha, h⟩ := Option.bind_eq_some_iff.mp h
      obtain ⟨rfl, rfl⟩ := Prod.mk.inj (Option.some.inj h)
      rw [Utf8.decode?_eq_some_iff] at hb ha
      constructor
      · apply Utf8.encode_injective
        rw [Utf8.encode_append, ← hb, ← ha, List.take_append_drop]
      · rw [← Utf8.length_encode, ← hb, List.length_take]
        omega
  · rintro ⟨rfl, rfl⟩
    have hl : ¬(Utf8.encode (before ++ after)).length < before.utf8ByteSize := by
      rw [Utf8.encode_append, List.length_append, Utf8.length_encode]
      omega
    rw [if_neg hl, Utf8.encode_append, ← Utf8.length_encode, List.take_left, List.drop_left,
      Utf8.decode?_encode, Utf8.decode?_encode]
    rfl

/-- Of two first parts of a text the shorter one starts the longer one. -/
theorem exists_of_append_eq_append {a b c d : String} (h : a ++ b = c ++ d)
    (hl : a.utf8ByteSize ≤ c.utf8ByteSize) : ∃ e, c = a ++ e ∧ b = e ++ d := by
  have hlist := congrArg String.toList h
  rw [String.toList_append, String.toList_append, List.append_eq_append_iff] at hlist
  rcases hlist with ⟨e, hc, hb⟩ | ⟨e, ha, hd⟩
  · refine ⟨String.ofList e, ?_, ?_⟩
    · rw [← String.toList_inj, hc, String.toList_append, String.toList_ofList]
    · rw [← String.toList_inj, hb, String.toList_append, String.toList_ofList]
  · have hs : a = c ++ String.ofList e := by
      rw [← String.toList_inj, ha, String.toList_append, String.toList_ofList]
    have he : String.ofList e = "" := by
      rw [hs, String.utf8ByteSize_append] at hl
      rw [← String.utf8ByteSize_eq_zero_iff]
      omega
    rw [he, String.append_empty] at hs
    subst hs
    exact ⟨"", (String.append_empty).symm, by
      rw [String.empty_append]
      exact (String.append_right_inj a).mp h⟩

/-! ## Forms -/

/-- A hash names its scheme: the name stands after a dollar sign and ends at the next one, or with
the hash. -/
def Names (hash name : String) : Prop :=
  hash = "$" ++ name ∨ ∃ rest, hash = "$" ++ name ++ "$" ++ rest

/-- A hash without the mark of any scheme. -/
def IsUnmarked (hash : String) : Prop :=
  (∀ rest, hash ≠ "$" ++ rest) ∧ ∀ rest, hash ≠ shaMark ++ rest

/-- A hash has the form of a scheme. -/
def HasForm (hash : String) : HashScheme → Prop
  | .sha1 => ∃ (digest : List UInt8) (text : String), digest.length = 20 ∧
      hash = shaMark ++ text ∧ Utf8.encode text = Base64.encode digest
  | .apr1 => Names hash "apr1"
  | .bcrypt => Names hash "2a" ∨ Names hash "2b" ∨ Names hash "2y"
  | .crypt => IsUnmarked hash ∧ hash.utf8ByteSize = 13 ∧
      ∀ c ∈ hash.toList, Text.isAlphanumeric c = true ∨ c = '.' ∨ c = '/'
  | .plain => IsUnmarked hash ∧ ¬(hash.utf8ByteSize = 13 ∧
      ∀ c ∈ hash.toList, Text.isAlphanumeric c = true ∨ c = '.' ∨ c = '/')

/-- The characters before the first separator. -/
theorem takeWhile_ne_eq_iff {sep : Char} {cs name : List Char} (hn : sep ∉ name) :
    cs.takeWhile (· ≠ sep) = name ↔ cs = name ∨ ∃ rest, cs = name ++ sep :: rest := by
  constructor
  · rintro rfl
    have happ := List.takeWhile_append_dropWhile (p := (· ≠ sep)) (l := cs)
    cases hd : cs.dropWhile (· ≠ sep) with
    | nil =>
      rw [hd, List.append_nil] at happ
      exact .inl happ.symm
    | cons d rest =>
      have hh := List.head?_dropWhile_not (· ≠ sep) cs
      rw [hd] at hh happ
      obtain rfl : d = sep := by simpa using hh
      exact .inr ⟨rest, happ.symm⟩
  · have htake (tail : List Char) : (name ++ tail).takeWhile (· ≠ sep) =
        name ++ tail.takeWhile (· ≠ sep) := by
      apply List.takeWhile_append_of_pos
      intro c hc
      simp only [ne_eq, decide_not, Bool.not_eq_true', decide_eq_false_iff_not]
      exact fun he ↦ hn (he ▸ hc)
    rintro (rfl | ⟨rest, rfl⟩)
    · have h := htake []
      rwa [List.append_nil, List.takeWhile_nil, List.append_nil] at h
    · rw [htake, List.takeWhile_cons_of_neg (by simp), List.append_nil]

theorem toList_eq_cons_iff {hash : String} {rest : List Char} :
    hash.toList = '$' :: rest ↔ hash = "$" ++ String.ofList rest := by
  have hd : "$".toList = ['$'] := rfl
  rw [← String.toList_inj, String.toList_append, hd, String.toList_ofList, List.singleton_append]

/-- A named scheme is what stands before the second dollar sign. -/
theorem names_iff {hash name : String} (hn : '$' ∉ name.toList) :
    Names hash name ↔ ∃ rest, hash.toList = '$' :: rest ∧
      String.ofList (rest.takeWhile (· ≠ '$')) = name := by
  have hd : "$".toList = ['$'] := rfl
  simp only [Names, ← String.toList_inj, String.toList_append, String.toList_ofList, hd]
  constructor
  · rintro (h | ⟨rest, h⟩)
    · exact ⟨name.toList, h, (takeWhile_ne_eq_iff hn).mpr (.inl rfl)⟩
    · refine ⟨name.toList ++ '$' :: rest.toList, ?_, (takeWhile_ne_eq_iff hn).mpr (.inr ⟨_, rfl⟩)⟩
      simpa using h
  · rintro ⟨rest, h, htake⟩
    rcases (takeWhile_ne_eq_iff hn).mp htake with rfl | ⟨tail, rfl⟩
    · exact .inl h
    · refine .inr ⟨String.ofList tail, ?_⟩
      simpa using h

/-- A hash with a named scheme begins with a dollar sign. -/
theorem Names.exists_toList {hash name : String} (h : Names hash name) :
    ∃ rest, hash.toList = '$' :: rest := by
  rcases h with rfl | ⟨rest, rfl⟩
  · exact ⟨name.toList, by rw [String.toList_append]; rfl⟩
  · refine ⟨(name ++ "$" ++ rest).toList, ?_⟩
    rw [String.append_assoc, String.append_assoc, String.toList_append, String.append_assoc]
    rfl

/-! ## Detection -/

/-- A hash begins with the mark of SHA-1, or with a dollar sign, or it has no mark. -/
theorem marked_or_unmarked (hash : String) : (∃ text, hash = shaMark ++ text) ∨
    (∃ rest, hash.toList = '$' :: rest) ∨ IsUnmarked hash := by
  by_cases hs : ∃ text, hash = shaMark ++ text
  · exact .inl hs
  · by_cases hd : ∃ rest, hash.toList = '$' :: rest
    · exact .inr (.inl hd)
    · refine .inr (.inr ⟨fun rest h ↦ hd ⟨rest.toList, ?_⟩, fun text h ↦ hs ⟨text, h⟩⟩)
      rw [h, String.toList_append]
      rfl

/-- The mark of SHA-1 does not begin with a dollar sign. -/
theorem sha_ne_dollar {hash text : String} (h : hash = shaMark ++ text) (rest : List Char) :
    hash.toList ≠ '$' :: rest := by
  rw [h, String.toList_append]
  exact fun he ↦ absurd (List.cons.inj he).1 (by decide)

/-- After the mark of SHA-1 stands the base64 text of twenty bytes. -/
theorem scheme_sha_iff {text : String} {s : HashScheme} : scheme (shaMark ++ text) = .ok s ↔
    s = .sha1 ∧ ∃ digest, Base64.decode (Utf8.encode text) = .ok digest ∧ digest.length = 20 := by
  rw [scheme, after?_eq_some_iff.mpr rfl]
  simp only
  cases Base64.decode (Utf8.encode text) with
  | error fault => simp
  | ok digest => by_cases hl : digest.length = 20 <;> simp [hl, eq_comm]

/-- After a dollar sign stands the name of a scheme. -/
theorem scheme_dollar_iff {hash : String} {rest : List Char} (h : hash.toList = '$' :: rest)
    {s : HashScheme} : scheme hash = .ok s ↔ s = .apr1 ∧ Names hash "apr1" ∨
      s = .bcrypt ∧ (Names hash "2a" ∨ Names hash "2b" ∨ Names hash "2y") := by
  have hn : after? shaMark hash = none := by
    rw [Option.eq_none_iff_forall_ne_some]
    exact fun text ht ↦ sha_ne_dollar (after?_eq_some_iff.mp ht) rest h
  have hnames (name : String) (hd : '$' ∉ name.toList) :
      Names hash name ↔ String.ofList (rest.takeWhile (· ≠ '$')) = name := by
    rw [names_iff hd]
    constructor
    · rintro ⟨rest', hr', ht⟩
      rw [h] at hr'
      rwa [(List.cons.inj hr').2]
    · exact fun ht ↦ ⟨rest, h, ht⟩
  rw [hnames "apr1" (by decide), hnames "2a" (by decide), hnames "2b" (by decide),
    hnames "2y" (by decide), scheme, hn]
  simp only [h]
  generalize String.ofList (rest.takeWhile (· ≠ '$')) = name
  split
  · next ha => simp [ha, eq_comm]
  · split
    · next ha hb => simp [ha, hb, @eq_comm _ s]
    · next ha hb => simp [ha, hb]

/-- What has no mark is always taken for one of thirteen characters, or for the password. -/
theorem scheme_unmarked {hash : String} (h : IsUnmarked hash) :
    scheme hash = .ok (if isCrypt hash then .crypt else .plain) := by
  have hn : after? shaMark hash = none := by
    rw [Option.eq_none_iff_forall_ne_some]
    exact fun text ht ↦ h.2 text (after?_eq_some_iff.mp ht)
  rw [scheme, hn]
  simp only
  split
  · next rest hr =>
    exact absurd (toList_eq_cons_iff.mp hr) (h.1 _)
  · rfl

theorem isCrypt_iff {hash : String} : isCrypt hash = true ↔ hash.utf8ByteSize = 13 ∧
    ∀ c ∈ hash.toList, Text.isAlphanumeric c = true ∨ c = '.' ∨ c = '/' := by
  rw [isCrypt, Bool.and_eq_true, beq_iff_eq, List.all_eq_true]
  simp only [Bool.or_eq_true, beq_iff_eq, or_assoc]

/-- With the mark of SHA-1 a hash is one of SHA-1, or none. -/
theorem scheme_sha_eq_ok_iff {text : String} {s : HashScheme} :
    scheme (shaMark ++ text) = .ok s ↔ HasForm (shaMark ++ text) s := by
  have hnames (name : String) : ¬Names (shaMark ++ text) name := by
    intro h
    obtain ⟨rest, hr⟩ := h.exists_toList
    exact sha_ne_dollar rfl rest hr
  have hmark : ¬IsUnmarked (shaMark ++ text) := fun h ↦ h.2 text rfl
  rw [scheme_sha_iff]
  cases s with
  | sha1 =>
    rw [HasForm]
    constructor
    · rintro ⟨-, digest, hd, hl⟩
      exact ⟨digest, text, hl, rfl, Base64.decode_eq_ok_iff.mp hd⟩
    · rintro ⟨digest, text', hl, ht, hd⟩
      obtain rfl := (String.append_right_inj shaMark).mp ht
      exact ⟨rfl, digest, Base64.decode_eq_ok_iff.mpr hd, hl⟩
  | apr1 => simp [HasForm, hnames]
  | bcrypt => simp [HasForm, hnames]
  | crypt => simp [HasForm, hmark]
  | plain => simp [HasForm, hmark]

/-- After a dollar sign the name decides. -/
theorem scheme_dollar_eq_ok_iff {hash : String} {rest : List Char} (hr : hash.toList = '$' :: rest)
    {s : HashScheme} : scheme hash = .ok s ↔ HasForm hash s := by
  have hsha (text : String) : hash ≠ shaMark ++ text := fun h ↦ sha_ne_dollar h rest hr
  have hmark : ¬IsUnmarked hash := fun h ↦ h.1 _ (toList_eq_cons_iff.mp hr)
  rw [scheme_dollar_iff hr]
  cases s with
  | sha1 => simp [HasForm, hsha]
  | apr1 => simp [HasForm]
  | bcrypt => simp [HasForm]
  | crypt => simp [HasForm, hmark]
  | plain => simp [HasForm, hmark]

/-- A hash without a mark is always taken for one. -/
theorem scheme_unmarked_eq_ok_iff {hash : String} (hu : IsUnmarked hash) {s : HashScheme} :
    scheme hash = .ok s ↔ HasForm hash s := by
  have hnames (name : String) : ¬Names hash name := by
    intro h
    rcases h with h | ⟨rest, h⟩
    · exact hu.1 name h
    · exact hu.1 (name ++ "$" ++ rest) (by simpa only [String.append_assoc] using h)
  rw [scheme_unmarked hu, Except.ok.injEq]
  cases s with
  | sha1 => by_cases hc : isCrypt hash = true <;> simp [HasForm, hc, hu.2]
  | apr1 => by_cases hc : isCrypt hash = true <;> simp [HasForm, hc, hnames]
  | bcrypt => by_cases hc : isCrypt hash = true <;> simp [HasForm, hc, hnames]
  | crypt =>
    rw [HasForm, ← isCrypt_iff]
    split <;> simp [*]
  | plain =>
    rw [HasForm, ← isCrypt_iff]
    split <;> simp [*]

/-- A hash is taken for one of a scheme exactly if it has the form of the scheme. -/
theorem scheme_eq_ok_iff {hash : String} {s : HashScheme} :
    scheme hash = .ok s ↔ HasForm hash s := by
  rcases marked_or_unmarked hash with ⟨text, rfl⟩ | ⟨rest, hr⟩ | hu
  · exact scheme_sha_eq_ok_iff
  · exact scheme_dollar_eq_ok_iff hr
  · exact scheme_unmarked_eq_ok_iff hu

end ProxySettings.PasswordHash
