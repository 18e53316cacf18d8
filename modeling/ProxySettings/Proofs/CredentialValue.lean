import ProxySettings.Proofs.Credentials

/-!
# Reading the credentials of a value

A value is written for a user and a password: the word of the scheme in any case, and the base64
text of both, with blanks between and around them. Reading undoes writing: it gives back the user
and the password, and nothing else is read as credentials.
-/

namespace ProxySettings.Credentials

/-- A value is written for a user and a password: blanks, the word of the scheme, blanks, the base64
text of user and password, and blanks. Only the blanks in the middle have to be there. -/
def IsWritten (value user password : String) : Prop :=
  ∃ before word between token after : String,
    value = before ++ word ++ between ++ token ++ after ∧
    (∀ c ∈ (before ++ between ++ after).toList, Text.isBlank c = true) ∧ between ≠ "" ∧
    Text.eqIgnoringCase word "basic" = true ∧
    Utf8.encode token = Base64.encode (Utf8.encode (user ++ ":" ++ password))

/-- Two words are what they are with blanks between and around them. -/
theorem words_eq_pair_iff {value word token : String}
    (hword : word.toList ≠ [] ∧ ∀ c ∈ word.toList, Text.isBlank c = false)
    (htoken : token.toList ≠ [] ∧ ∀ c ∈ token.toList, Text.isBlank c = false) :
    Text.words value = [word, token] ↔ ∃ before between after : String,
      value = before ++ word ++ between ++ token ++ after ∧
        (∀ c ∈ (before ++ between ++ after).toList, Text.isBlank c = true) ∧ between ≠ "" := by
  rw [Text.words_eq_iff, List.map_cons, List.map_cons, List.map_nil, Text.wordsOf_eq_pair_iff]
  constructor
  · rintro ⟨before, between, after, he, hb, hne, -, -⟩
    refine ⟨String.ofList before, String.ofList between, String.ofList after, ?_, ?_, ?_⟩
    · rw [← String.toList_inj, he]
      simp only [String.toList_append, String.toList_ofList]
    · simpa only [String.toList_append, String.toList_ofList] using hb
    · rw [ne_eq, ← String.toList_eq_nil_iff, String.toList_ofList]
      exact hne
  · rintro ⟨before, between, after, rfl, hb, hne⟩
    refine ⟨before.toList, between.toList, after.toList, ?_, ?_, ?_, hword, htoken⟩
    · simp only [String.toList_append]
    · simpa only [String.toList_append] using hb
    · rwa [ne_eq, String.toList_eq_nil_iff]

/-- The base64 text of a user and a password is a word. -/
theorem isWord_of_encode {user password token : String}
    (h : Utf8.encode token = Base64.encode (Utf8.encode (user ++ ":" ++ password))) :
    token.toList ≠ [] ∧ ∀ c ∈ token.toList, Text.isBlank c = false := by
  refine token_isWord (fun he ↦ ?_) h
  have hl := congrArg String.toList he
  simp at hl

/-- A value is read as a user and a password exactly if it is written for them. -/
theorem ofValue?_eq_some_iff_isWritten {value user password : String} :
    ofValue? value = some ⟨user, password⟩ ↔
      ':' ∉ user.toList ∧ IsWritten value user password := by
  rw [ofValue?_eq_some_iff]
  constructor
  · rintro ⟨word, token, hw, hs, ht⟩
    obtain ⟨hu, he⟩ := ofToken?_eq_some_iff.mp ht
    obtain ⟨before, between, after, hv, hb, hne⟩ :=
      (words_eq_pair_iff (scheme_isWord hs) (isWord_of_encode he)).mp hw
    exact ⟨hu, before, word, between, token, after, hv, hb, hne, hs, he⟩
  · rintro ⟨hu, before, word, between, token, after, hv, hb, hne, hs, he⟩
    have hw := (words_eq_pair_iff (scheme_isWord hs) (isWord_of_encode he)).mpr
      ⟨before, between, after, hv, hb, hne⟩
    exact ⟨word, token, hw, hs, ofToken?_eq_some_iff.mpr ⟨hu, he⟩⟩

/-- Reading is the inverse of writing: a value is read as a user and a password exactly if the user
has no colon and the value is written for both, and a value is not read exactly if it is written for
no such user and password. -/
theorem ofValue?_inverts_writing (value : String) :
    (∀ user password, ofValue? value = some ⟨user, password⟩ ↔
      ':' ∉ user.toList ∧ IsWritten value user password) ∧
    (ofValue? value = none ↔
      ∀ user password, ':' ∉ user.toList → ¬IsWritten value user password) := by
  refine ⟨fun user password ↦ ofValue?_eq_some_iff_isWritten, ?_⟩
  rw [Option.eq_none_iff_forall_ne_some]
  constructor
  · intro h user password hu hw
    exact h ⟨user, password⟩ (ofValue?_eq_some_iff_isWritten.mpr ⟨hu, hw⟩)
  · rintro h ⟨user, password⟩ hs
    obtain ⟨hu, hw⟩ := ofValue?_eq_some_iff_isWritten.mp hs
    exact h user password hu hw

end ProxySettings.Credentials
