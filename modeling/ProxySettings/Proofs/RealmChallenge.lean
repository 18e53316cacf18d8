import ProxySettings.Proofs.Selection
import ProxySettings.Proofs.Utf8

/-!
# Challenges of realms

A challenge has its realm between quotation marks. Between them a backslash stands before a byte
that is taken as it is, and any other byte but a quotation mark stands for itself. A realm is put
between the marks as it is, so that its challenge is read as the realm exactly if it has neither
quotation marks nor backslashes.
-/

namespace ProxySettings

namespace Header

/-! ## Characters of values -/

/-- A character of a value: no control of ASCII but the tab. -/
def IsValueChar (c : Char) : Prop := c = '\t' ∨ 32 ≤ c.toNat ∧ c.toNat ≠ 127

theorem isValueByte_iff {b : UInt8} :
    isValueByte b = true ↔ b.toNat = 9 ∨ 32 ≤ b.toNat ∧ b.toNat ≠ 127 := by
  simp only [isValueByte, Bool.or_eq_true, Bool.and_eq_true, decide_eq_true_eq, beq_iff_eq,
    UInt8.le_iff_toNat_le, ← UInt8.toNat_inj, ne_eq]
  exact or_comm

theorem isValueChar_iff {c : Char} :
    IsValueChar c ↔ c.toNat = 9 ∨ 32 ≤ c.toNat ∧ c.toNat ≠ 127 := by
  have ht : c = '\t' ↔ c.toNat = 9 := by
    rw [← Char.toNat_inj]
    rfl
  rw [IsValueChar, ht]

/-- The bytes of a text are allowed in a value exactly if its characters are. -/
theorem forall_isValueByte_iff {s : String} :
    (∀ b ∈ Utf8.encode s, isValueByte b = true) ↔ ∀ c ∈ s.toList, IsValueChar c := by
  constructor
  · intro h c hc
    by_cases hlt : c.toNat < 128
    · have hb : UInt8.ofNat c.toNat ∈ Utf8.encode s := by
        rw [Utf8.mem_encode_iff (by rw [UInt8.lt_iff_toNat_lt, Utf8.toNat_byte hlt]; exact hlt),
          Utf8.ofNat_toNat_byte hlt]
        exact hc
      have hv := isValueByte_iff.mp (h _ hb)
      rw [Utf8.toNat_byte hlt] at hv
      exact isValueChar_iff.mpr hv
    · exact isValueChar_iff.mpr (.inr ⟨by omega, by omega⟩)
  · intro h b hb
    rw [isValueByte_iff]
    by_cases hlt : b < 128
    · have hc := isValueChar_iff.mp (h _ ((Utf8.mem_encode_iff hlt).mp hb))
      rwa [Utf8.toNat_ofNat_byte] at hc
    · have hle : 128 ≤ b.toNat := UInt8.le_iff_toNat_le.mp (UInt8.not_lt.mp hlt)
      exact .inr ⟨by omega, by omega⟩

/-! ## Content between quotation marks -/

/-- A byte of a value that stands for itself between quotation marks. -/
def isPlainByte (b : UInt8) : Bool := isValueByte b && b != 34 && b != 92

/-- The bytes between quotation marks and the content that they are read as. -/
inductive IsQuoted : List UInt8 → List UInt8 → Prop
  | nil : IsQuoted [] []
  | plain {b : UInt8} {written content : List UInt8} (hb : isPlainByte b = true)
    (h : IsQuoted written content) : IsQuoted (b :: written) (b :: content)
  | pair {b : UInt8} {written content : List UInt8} (hb : isValueByte b = true)
    (h : IsQuoted written content) : IsQuoted (92 :: b :: written) (b :: content)

namespace IsQuoted

variable {written content other : List UInt8}

/-- Bytes are read in one way. -/
theorem unique (h : IsQuoted written content) (h' : IsQuoted written other) : content = other := by
  induction h generalizing other with
  | nil =>
    cases h'
    rfl
  | plain hb _ ih =>
    cases h' with
    | plain _ h' => rw [ih h']
    | pair => exact absurd hb (by decide)
  | pair _ _ ih =>
    cases h' with
    | plain hb => exact absurd hb (by decide)
    | pair _ h' => rw [ih h']

theorem length_le (h : IsQuoted written content) : content.length ≤ written.length := by
  induction h with
  | nil => exact Nat.le_refl 0
  | plain _ _ ih => exact Nat.succ_le_succ ih
  | pair _ _ ih => exact Nat.succ_le_succ (Nat.le_succ_of_le ih)

/-- Where no byte is left out, every byte stands for itself. -/
theorem forall_isPlainByte (h : IsQuoted written content)
    (hl : written.length ≤ content.length) : ∀ b ∈ written, isPlainByte b = true := by
  induction h with
  | nil => exact List.forall_mem_nil _
  | plain hb _ ih => exact List.forall_mem_cons.mpr ⟨hb, ih (Nat.le_of_succ_le_succ hl)⟩
  | pair _ h =>
    have hle := h.length_le
    simp only [List.length_cons] at hl
    omega

/-- Bytes are read as they are exactly if all of them stand for themselves. -/
theorem self_iff : IsQuoted written written ↔ ∀ b ∈ written, isPlainByte b = true := by
  constructor
  · exact fun h ↦ h.forall_isPlainByte (Nat.le_refl _)
  · intro h
    induction written with
    | nil => exact .nil
    | cons b written ih =>
      obtain ⟨hb, hw⟩ := List.forall_mem_cons.mp h
      exact .plain hb (ih hw)

/-- Without backslashes there are no quotation marks. -/
theorem quote_notMem (h : IsQuoted written content) (hb : 92 ∉ written) : 34 ∉ written := by
  induction h with
  | nil => exact List.not_mem_nil
  | plain hp _ ih =>
    rw [List.mem_cons, not_or] at hb ⊢
    refine ⟨?_, ih hb.2⟩
    rintro rfl
    exact absurd hp (by decide)
  | pair => exact absurd List.mem_cons_self hb

end IsQuoted

theorem quote_mem_encode_iff {s : String} : 34 ∈ Utf8.encode s ↔ '"' ∈ s.toList :=
  Utf8.mem_encode_iff (by decide)

theorem backslash_mem_encode_iff {s : String} : 92 ∈ Utf8.encode s ↔ '\\' ∈ s.toList :=
  Utf8.mem_encode_iff (by decide)

/-- The bytes of a text stand for themselves exactly if they are allowed in a value and the text has
neither quotation marks nor backslashes. -/
theorem forall_isPlainByte_iff {s : String} : (∀ b ∈ Utf8.encode s, isPlainByte b = true) ↔
    (∀ b ∈ Utf8.encode s, isValueByte b = true) ∧ '"' ∉ s.toList ∧ '\\' ∉ s.toList := by
  rw [← quote_mem_encode_iff, ← backslash_mem_encode_iff]
  simp only [isPlainByte, Bool.and_eq_true, bne_iff_ne]
  grind

end Header

/-! ## Challenges -/

namespace BasicAuth

/-- The value with some bytes between the quotation marks of a challenge, and nothing behind. -/
def valueAround (written : List UInt8) : List UInt8 :=
  Utf8.encode "Basic realm=" ++ 34 :: (written ++ [34])

/-- A value is a challenge of a realm: the bytes between its quotation marks are read as it. -/
def IsChallenge (value : List UInt8) (realm : String) : Prop :=
  ∃ written, value = valueAround written ∧ Header.IsQuoted written (Utf8.encode realm)

variable {manager : PasswordManager} {realm other : String} {auth : BasicAuth} {e : ConfigError}

theorem valueAround_injective {written written' : List UInt8}
    (h : valueAround written = valueAround written') : written = written' :=
  List.append_cancel_right (List.cons.inj (List.append_cancel_left h)).2

/-- The bytes of a realm stand between the quotation marks as they are. -/
theorem encode_challengeText (realm : String) :
    Utf8.encode (challengeText realm) = valueAround (Utf8.encode realm) := by
  rw [challengeText, Utf8.encode_append, Utf8.encode_append, List.append_assoc]
  rfl

theorem isChallenge_iff : IsChallenge (Utf8.encode (challengeText realm)) other ↔
    Header.IsQuoted (Utf8.encode realm) (Utf8.encode other) := by
  rw [encode_challengeText]
  constructor
  · rintro ⟨written, hw, hq⟩
    rwa [valueAround_injective hw]
  · exact fun hq ↦ ⟨_, rfl, hq⟩

/-- A value is a challenge of one realm at most. -/
theorem IsChallenge.unique {value : List UInt8} (h : IsChallenge value realm)
    (h' : IsChallenge value other) : realm = other := by
  obtain ⟨written, rfl, hq⟩ := h
  obtain ⟨written', hw, hq'⟩ := h'
  rw [← valueAround_injective hw] at hq'
  exact Utf8.encode_injective (hq.unique hq')

/-- The challenge of a realm is allowed as a value exactly if the characters of the realm are. -/
theorem forall_isValueByte_challengeText_iff :
    (∀ b ∈ Utf8.encode (challengeText realm), Header.isValueByte b = true) ↔
      ∀ c ∈ realm.toList, Header.IsValueChar c := by
  have hfront : ∀ b ∈ Utf8.encode "Basic realm=", Header.isValueByte b = true :=
    List.all_eq_true.mp (by decide)
  rw [← Header.forall_isValueByte_iff, encode_challengeText, valueAround]
  simp only [List.forall_mem_append, List.forall_mem_cons]
  exact ⟨fun h ↦ h.2.2.1, fun h ↦ ⟨hfront, by decide, h, by decide, List.forall_mem_nil _⟩⟩

theorem ofRealm_eq_ok_iff : ofRealm manager realm = .ok auth ↔
    (∀ c ∈ realm.toList, Header.IsValueChar c) ∧
      auth = ⟨manager, Utf8.encode (challengeText realm)⟩ := by
  rw [← forall_isValueByte_challengeText_iff, ← List.all_eq_true, ofRealm]
  split
  · next h => rw [and_iff_right h, Except.ok.injEq, eq_comm]
  · next h => simp only [reduceCtorEq, h, Bool.false_eq_true, false_and]

theorem ofRealm_eq_error_iff : ofRealm manager realm = .error e ↔
    (∃ c ∈ realm.toList, ¬Header.IsValueChar c) ∧ e = .invalidFormat .realm realm := by
  have hc : (∃ c ∈ realm.toList, ¬Header.IsValueChar c) ↔
      ¬∀ c ∈ realm.toList, Header.IsValueChar c := by
    simp only [Classical.not_forall, exists_prop]
  rw [hc, ← forall_isValueByte_challengeText_iff, ← List.all_eq_true, ofRealm]
  split
  · next h => simp only [reduceCtorEq, h, not_true_eq_false, false_and]
  · next h => rw [and_iff_right h, Except.error.injEq, eq_comm]

/-- A challenge is that of its realm and of no other exactly if the realm has neither quotation
marks nor backslashes. -/
theorem isChallenge_only_iff (h : ∀ c ∈ realm.toList, Header.IsValueChar c) :
    (∀ other, IsChallenge (Utf8.encode (challengeText realm)) other ↔ other = realm) ↔
      '"' ∉ realm.toList ∧ '\\' ∉ realm.toList := by
  have hself : IsChallenge (Utf8.encode (challengeText realm)) realm ↔
      '"' ∉ realm.toList ∧ '\\' ∉ realm.toList := by
    rw [isChallenge_iff, Header.IsQuoted.self_iff, Header.forall_isPlainByte_iff,
      and_iff_right (Header.forall_isValueByte_iff.mpr h)]
  rw [← hself]
  constructor
  · exact fun ho ↦ (ho realm).mpr rfl
  · intro hr other
    exact ⟨fun ho ↦ ho.unique hr, fun ho ↦ ho ▸ hr⟩

/-- A realm is accepted exactly if its characters are allowed in a value, and refused as it is
otherwise. The challenge of an accepted realm is one field with the realm between quotation marks.
It is read as this realm and as no other exactly if the realm has neither quotation marks nor
backslashes, and different realms have different challenges in any case. -/
theorem challenge_names_realm_iff (manager : PasswordManager) (realm : String) :
    ((∃ auth, ofRealm manager realm = .ok auth) ↔ ∀ c ∈ realm.toList, Header.IsValueChar c) ∧
    (∀ e, ofRealm manager realm = .error e ↔
      (∃ c ∈ realm.toList, ¬Header.IsValueChar c) ∧ e = .invalidFormat .realm realm) ∧
    ∀ auth, ofRealm manager realm = .ok auth →
      (∃ value, (Authenticator.basic auth).challenge = [⟨Header.proxyAuthenticate, value⟩] ∧
        value = Utf8.encode ("Basic realm=\"" ++ realm ++ "\"") ∧
        ((∀ other, IsChallenge value other ↔ other = realm) ↔
          '"' ∉ realm.toList ∧ '\\' ∉ realm.toList)) ∧
      ∀ manager' realm' auth', ofRealm manager' realm' = .ok auth' →
        (Authenticator.basic auth').challenge = (Authenticator.basic auth).challenge →
          realm' = realm := by
  refine ⟨?_, fun e ↦ ofRealm_eq_error_iff, fun auth ha ↦ ?_⟩
  · simp only [ofRealm_eq_ok_iff, exists_and_left, exists_eq, and_true]
  · obtain ⟨hchars, rfl⟩ := ofRealm_eq_ok_iff.mp ha
    refine ⟨⟨_, rfl, rfl, isChallenge_only_iff hchars⟩, fun manager' realm' auth' ha' he ↦ ?_⟩
    obtain ⟨-, rfl⟩ := ofRealm_eq_ok_iff.mp ha'
    have hvalue := (Header.mk.inj (List.cons.inj he).1).2
    rw [encode_challengeText, encode_challengeText] at hvalue
    exact Utf8.encode_injective (valueAround_injective hvalue)

/-- The challenge of a realm with quotation marks, but without backslashes, is that of no realm. -/
theorem not_isChallenge_of_quote (hq : '"' ∈ realm.toList) (hb : '\\' ∉ realm.toList) :
    ¬IsChallenge (Utf8.encode (challengeText realm)) other := by
  rw [isChallenge_iff]
  intro h
  rw [← Header.backslash_mem_encode_iff] at hb
  exact h.quote_notMem hb (Header.quote_mem_encode_iff.mpr hq)

/-- A quotation mark in a realm ends the content of its challenge, and a backslash is left out of
the content, so that the challenge is that of another realm. -/
theorem challenge_misread :
    (∃ auth, ofRealm .nonAnonymous "a\"b" = .ok auth ∧
      ∀ other, ¬IsChallenge auth.challenge other) ∧
    ∃ auth, ofRealm .nonAnonymous "a\\b" = .ok auth ∧ IsChallenge auth.challenge "ab" := by
  have accepted (realm : String) (h : (Utf8.encode realm).all Header.isValueByte = true) :
      ofRealm .nonAnonymous realm = .ok ⟨.nonAnonymous, Utf8.encode (challengeText realm)⟩ :=
    ofRealm_eq_ok_iff.mpr ⟨Header.forall_isValueByte_iff.mp (List.all_eq_true.mp h), rfl⟩
  constructor
  · refine ⟨_, accepted _ (by decide), fun other ↦ ?_⟩
    exact not_isChallenge_of_quote (by decide) (by decide)
  · refine ⟨_, accepted _ (by decide), isChallenge_iff.mpr ?_⟩
    exact .plain (by decide) (.pair (by decide) .nil)

end BasicAuth

/-- The challenge of a selected authenticator that asks for credentials is that of the realm. -/
theorem AuthOptions.challenge_of_select {o : AuthOptions} {w : World} {a : Authenticator}
    (h : (o.select w).result = .ok a) (ha : a.backend ≠ .disabled) :
    ∃ value, a.challenge = [⟨Header.proxyAuthenticate, value⟩] ∧
      ∀ other, BasicAuth.IsChallenge value other ↔ other = realm := by
  rw [result_select] at h
  obtain ⟨manager, -, rfl⟩ := exists_of_map_eq_ok h
  cases manager with
  | none => exact absurd rfl ha
  | some manager =>
    refine ⟨_, rfl, (BasicAuth.isChallenge_only_iff ?_).mpr (by decide)⟩
    exact (BasicAuth.ofRealm_eq_ok_iff.mp (BasicAuth.ofRealm_realm manager)).1

end ProxySettings
