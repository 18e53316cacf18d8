import ProxySettings.Auth.Authenticator
import ProxySettings.Proofs.Base64
import ProxySettings.Proofs.Splitting
import ProxySettings.Proofs.Utf8

/-!
# The values that carry credentials

A token denotes a user and a password exactly if it is the base64 text of both, joined by a colon. A
value carries a token if it shows in ASCII and is the word of the scheme and the token, with blanks
between and around them.
-/

namespace ProxySettings

/-! ## Tokens -/

/-- A token is read exactly if it is written for the user and the password, and the user has no
colon. -/
theorem Credentials.ofToken?_eq_some_iff {token : String} {given : Credentials} :
    ofToken? token = some given ↔ ':' ∉ given.user.toList ∧
      Utf8.encode token = Base64.encode (Utf8.encode (given.user ++ ":" ++ given.password)) := by
  rw [ofToken?]
  constructor
  · intro h
    obtain ⟨bytes, hb, h⟩ := Option.bind_eq_some_iff.mp h
    obtain ⟨text, ht, h⟩ := Option.bind_eq_some_iff.mp h
    obtain ⟨⟨user, password⟩, hc, h⟩ := Option.bind_eq_some_iff.mp h
    obtain rfl := Option.some.inj h
    obtain ⟨rfl, hu⟩ := Text.cut_eq_some_iff.mp hc
    have hd : Base64.decode (Utf8.encode token) = .ok bytes := by
      cases hd : Base64.decode (Utf8.encode token) with
      | error fault =>
        rw [hd] at hb
        cases hb
      | ok decoded =>
        rw [hd] at hb
        rw [Option.some.inj hb]
    rw [Base64.decode_eq_ok_iff, Utf8.decode?_eq_some_iff.mp ht] at hd
    exact ⟨hu, hd⟩
  · rintro ⟨hu, ht⟩
    have hd : Base64.decode (Utf8.encode token) =
        .ok (Utf8.encode (given.user ++ ":" ++ given.password)) :=
      Base64.decode_eq_ok_iff.mpr ht
    have hc : Text.cut ':' (given.user ++ ":" ++ given.password) =
        some (given.user, given.password) :=
      Text.cut_eq_some_iff.mpr ⟨rfl, hu⟩
    simp only [hd, Except.toOption, bind, Option.bind, Utf8.decode?_encode, hc]
    rfl

/-! ## Values -/

/-- The bytes that show are a tab and those from the space to the tilde. -/
theorem Header.isVisibleByte_iff {b : UInt8} :
    isVisibleByte b = true ↔ 32 ≤ b.toNat ∧ b.toNat < 127 ∨ b.toNat = 9 := by
  rw [isVisibleByte, Bool.or_eq_true, Bool.and_eq_true, decide_eq_true_eq, decide_eq_true_eq,
    beq_iff_eq, UInt8.le_iff_toNat_le, UInt8.lt_iff_toNat_lt, ← UInt8.toNat_inj]
  rfl

/-- Among the bytes that show, a space and a tab alone are blanks. -/
theorem Header.isBlank_of_visible {b : UInt8} (h : isVisibleByte b = true) :
    Text.isBlank (Char.ofNat b.toNat) = true ↔ b = 32 ∨ b = 9 := by
  rw [isVisibleByte_iff] at h
  rw [Text.isBlank, Utf8.toNat_ofNat_byte, ← UInt8.toNat_inj, ← UInt8.toNat_inj]
  have h32 : (32 : UInt8).toNat = 32 := rfl
  have h9 : (9 : UInt8).toNat = 9 := rfl
  simp only [Bool.or_eq_true, Bool.and_eq_true, decide_eq_true_eq, beq_iff_eq, h32, h9]
  omega

/-- The bytes that show are those of ASCII. -/
theorem Header.lt_of_visible {b : UInt8} (h : isVisibleByte b = true) : b < 128 := by
  rw [isVisibleByte_iff] at h
  rw [UInt8.lt_iff_toNat_lt]
  change b.toNat < 128
  omega

/-- The characters of bytes that show are written as the bytes. -/
theorem Header.map_eq_toList_iff {bytes : List UInt8} (hv : ∀ b ∈ bytes, isVisibleByte b = true)
    {s : String} : (bytes.map fun b ↦ Char.ofNat b.toNat) = s.toList ↔ bytes = Utf8.encode s := by
  have he := Utf8.encode_ofList_bytes fun b hb ↦ lt_of_visible (hv b hb)
  constructor
  · intro h
    rw [← he, h, String.ofList_toList]
  · rintro rfl
    have hs := congrArg String.toList (Utf8.encode_injective he)
    rwa [String.toList_ofList] at hs

/-- A value that shows has two words exactly if it is the two, with blanks between and around them.
-/
theorem Header.words_eq_pair_iff {value : List UInt8} (hv : ∀ b ∈ value, isVisibleByte b = true)
    {word token : String} :
    Text.words (String.ofList (value.map fun b ↦ Char.ofNat b.toNat)) = [word, token] ↔
      ∃ before between after : List UInt8,
        value = before ++ Utf8.encode word ++ between ++ Utf8.encode token ++ after ∧
          (∀ b ∈ before ++ between ++ after, b = 32 ∨ b = 9) ∧ between ≠ [] ∧
          (word.toList ≠ [] ∧ ∀ c ∈ word.toList, Text.isBlank c = false) ∧
          (token.toList ≠ [] ∧ ∀ c ∈ token.toList, Text.isBlank c = false) := by
  rw [Text.words_eq_iff, String.toList_ofList, List.map_cons, List.map_cons, List.map_nil,
    Text.wordsOf_eq_pair_iff]
  constructor
  · rintro ⟨before, between, after, he, hb, hne, hword, htoken⟩
    obtain ⟨rest, tail, rfl, h4, rfl⟩ := List.map_eq_append_iff.mp he
    obtain ⟨rest, second, rfl, h3, hs⟩ := List.map_eq_append_iff.mp h4
    obtain ⟨rest, middle, rfl, h2, rfl⟩ := List.map_eq_append_iff.mp h3
    obtain ⟨front, first, rfl, rfl, hf⟩ := List.map_eq_append_iff.mp h2
    simp only [List.forall_mem_append] at hv hb
    obtain ⟨⟨⟨⟨hfront, hfirst⟩, hmiddle⟩, hsecond⟩, htail⟩ := hv
    obtain ⟨⟨hb1, hb2⟩, hb3⟩ := hb
    have blank {bytes : List UInt8} (hv : ∀ b ∈ bytes, isVisibleByte b = true)
        (hb : ∀ c ∈ bytes.map fun b ↦ Char.ofNat b.toNat, Text.isBlank c = true) :
        ∀ b ∈ bytes, b = 32 ∨ b = 9 :=
      fun b h ↦ (isBlank_of_visible (hv b h)).mp (hb _ (List.mem_map_of_mem h))
    refine ⟨front, middle, tail, ?_, ?_, ?_, hword, htoken⟩
    · rw [(map_eq_toList_iff hfirst).mp hf, (map_eq_toList_iff hsecond).mp hs]
    · simp only [List.forall_mem_append]
      exact ⟨⟨blank hfront hb1, blank hmiddle hb2⟩, blank htail hb3⟩
    · exact fun h ↦ hne (List.map_eq_nil_iff.mpr h)
  · rintro ⟨before, between, after, rfl, hb, hne, hword, htoken⟩
    simp only [List.forall_mem_append] at hv
    obtain ⟨⟨⟨⟨-, hfirst⟩, -⟩, hsecond⟩, -⟩ := hv
    refine ⟨before.map fun b ↦ Char.ofNat b.toNat, between.map fun b ↦ Char.ofNat b.toNat,
      after.map fun b ↦ Char.ofNat b.toNat, ?_, ?_, ?_, hword, htoken⟩
    · simp only [List.map_append]
      rw [(map_eq_toList_iff hfirst).mpr rfl, (map_eq_toList_iff hsecond).mpr rfl]
    · rw [← List.map_append, ← List.map_append]
      intro c hc
      obtain ⟨b, hm, rfl⟩ := List.mem_map.mp hc
      have hbv : isVisibleByte b = true := by
        rcases hb b hm with rfl | rfl <;> rfl
      exact (isBlank_of_visible hbv).mpr (hb b hm)
    · exact fun h ↦ hne (List.map_eq_nil_iff.mp h)

/-- A field has a text exactly if all its bytes show. -/
theorem Header.text?_eq_some_iff {field : Header} {text : String} :
    field.text? = some text ↔ (∀ b ∈ field.value, isVisibleByte b = true) ∧
      String.ofList (field.value.map fun b ↦ Char.ofNat b.toNat) = text := by
  rw [text?, ← List.all_eq_true]
  split
  · next h => simp [h]
  · next h => simp [h]

/-- Credentials are read from a value of two words, the scheme and their token. -/
theorem Credentials.ofValue?_eq_some_iff {value : String} {given : Credentials} :
    ofValue? value = some given ↔ ∃ word token, Text.words value = [word, token] ∧
      Text.eqIgnoringCase word scheme = true ∧ ofToken? token = some given := by
  rw [ofValue?]
  constructor
  · intro h
    split at h
    · next word token hw =>
      split at h
      · next he => exact ⟨word, token, hw, he, h⟩
      · cases h
    · cases h
  · rintro ⟨word, token, hw, he, h⟩
    rw [hw]
    simp only [he, ↓reduceIte]
    exact h

/-! ## Written tokens -/

/-- What base64 writes shows in ASCII. -/
theorem Header.isVisibleByte_of_mem_encode {bytes : List UInt8} {b : UInt8}
    (h : b ∈ Base64.encode bytes) : isVisibleByte b = true := by
  obtain ⟨hlow, hhigh⟩ := Base64.encode_visible bytes b h
  rw [UInt8.lt_iff_toNat_lt] at hlow hhigh
  exact isVisibleByte_iff.mpr (.inl ⟨Nat.le_of_lt hlow, hhigh⟩)

/-- Every base64 text is that of a token. -/
theorem Credentials.exists_token (bytes : List UInt8) :
    ∃ token, Utf8.encode token = Base64.encode bytes :=
  ⟨_, Utf8.encode_ofList_bytes fun _ h ↦
    Header.lt_of_visible (Header.isVisibleByte_of_mem_encode h)⟩

/-- The token of a text that is not empty is a word. -/
theorem Credentials.token_isWord {text token : String} (hne : text ≠ "")
    (h : Utf8.encode token = Base64.encode (Utf8.encode text)) :
    token.toList ≠ [] ∧ ∀ c ∈ token.toList, Text.isBlank c = false := by
  have hl := (Header.map_eq_toList_iff fun _ ↦ Header.isVisibleByte_of_mem_encode).mpr h.symm
  rw [← hl]
  constructor
  · rw [ne_eq, List.map_eq_nil_iff, Base64.encode_eq_nil_iff, Utf8.encode_eq_nil_iff]
    exact hne
  · intro c hc
    obtain ⟨b, hb, rfl⟩ := List.mem_map.mp hc
    have hs := (Base64.encode_visible _ b hb).1
    rw [← Bool.not_eq_true, Header.isBlank_of_visible (Header.isVisibleByte_of_mem_encode hb)]
    rintro (rfl | rfl)
    · exact absurd hs (by decide)
    · exact absurd hs (by decide)

/-! ## The scheme -/

/-- A blank has no other case. -/
theorem Text.toLower_of_isBlank {c : Char} (h : isBlank c = true) : c.toLower = c := by
  apply dif_neg
  rintro ⟨hlow, hhigh⟩
  have hl : 65 ≤ c.toNat := UInt32.le_iff_toNat_le.mp hlow
  have hh : c.toNat ≤ 90 := UInt32.le_iff_toNat_le.mp hhigh
  rw [isBlank] at h
  simp only [Bool.or_eq_true, Bool.and_eq_true, decide_eq_true_eq, beq_iff_eq] at h
  omega

/-- The word of the scheme is a word in any case. -/
theorem Credentials.scheme_isWord {word : String}
    (h : Text.eqIgnoringCase word "basic" = true) :
    word.toList ≠ [] ∧ ∀ c ∈ word.toList, Text.isBlank c = false := by
  have hw : word.toList.map Char.toLower = "basic".toList := by
    have hl := congrArg String.toList (eq_of_beq h)
    rw [Text.asciiLower, String.toList_ofList] at hl
    exact hl
  constructor
  · intro hn
    rw [hn] at hw
    exact absurd hw (by decide)
  · intro c hc
    have hm : c.toLower ∈ "basic".toList := hw ▸ List.mem_map_of_mem hc
    cases hb : Text.isBlank c with
    | false => rfl
    | true =>
      rw [Text.toLower_of_isBlank hb] at hm
      have plain : "basic".toList.all (!Text.isBlank ·) = true := by decide
      have hn := List.all_eq_true.mp plain c hm
      rw [hb] at hn
      cases hn

/-! ## Fields of a request -/

/-- The fields of a message, whose names may have letters of any case. -/
def Headers.ofFields (fields : List (String × List UInt8)) : Headers :=
  fields.map fun f ↦ ⟨Text.asciiLower f.1, f.2⟩

/-- The first field for credentials is the first whose name is theirs in some case. -/
theorem Headers.first?_ofFields (fields : List (String × List UInt8)) :
    (ofFields fields).first? Header.proxyAuthorization =
      (fields.find? fun f ↦ Text.eqIgnoringCase f.1 "Proxy-Authorization").map fun f ↦
        ⟨Text.asciiLower f.1, f.2⟩ := by
  have hn : Text.asciiLower "Proxy-Authorization" = Header.proxyAuthorization := by decide
  rw [first?, ofFields, List.find?_map]
  simp only [Text.eqIgnoringCase, hn]
  rfl

end ProxySettings
