import ProxySettings.Encoding.Utf8

/-!
# UTF-8 is unambiguous

Bytes that are read are exactly those that are written, and bytes of ASCII are the characters of the
same numbers.
-/

namespace ProxySettings.Utf8

/-- Reading accepts exactly what writing produces. -/
theorem decode?_eq_some_iff {bytes : List UInt8} {s : String} :
    decode? bytes = some s ↔ bytes = encode s := by
  constructor
  · intro h
    rw [decode?, String.fromUTF8?] at h
    split at h
    · obtain rfl := Option.some.inj h
      rfl
    · cases h
  · rintro rfl
    exact decode?_encode s

theorem encode_injective {s t : String} (h : encode s = encode t) : s = t :=
  Option.some.inj ((decode?_encode s).symm.trans (decode?_eq_some_iff.mpr h))

/-- The empty text alone is written as nothing. -/
theorem encode_eq_nil_iff {s : String} : encode s = [] ↔ s = "" := by
  constructor
  · intro h
    exact encode_injective h
  · rintro rfl
    rfl

/-- A text is written character by character. -/
theorem encode_eq_flatMap (s : String) : encode s = s.toList.flatMap String.utf8EncodeChar := by
  rw [encode, String.toUTF8_eq_toByteArray, ← String.utf8Encode_toList, List.utf8Encode,
    List.data_toByteArray]

theorem encode_append (s t : String) : encode (s ++ t) = encode s ++ encode t := by
  rw [encode_eq_flatMap, encode_eq_flatMap, encode_eq_flatMap, String.toList_append,
    List.flatMap_append]

theorem length_encode (s : String) : (encode s).length = s.utf8ByteSize := rfl

/-! ## ASCII -/

theorem toNat_ofNat_byte (b : UInt8) : (Char.ofNat b.toNat).toNat = b.toNat := by
  have hb := b.toNat_lt
  rw [Char.ofNat, dif_pos (Or.inl (by omega))]
  rfl

theorem toNat_byte {c : Char} (h : c.toNat < 128) : (UInt8.ofNat c.toNat).toNat = c.toNat := by
  rw [UInt8.toNat_ofNat']
  omega

theorem ofNat_toNat_byte {c : Char} (h : c.toNat < 128) :
    Char.ofNat (UInt8.ofNat c.toNat).toNat = c := by
  rw [toNat_byte h, Char.ofNat_toNat]

/-- A character of ASCII is written as the byte of its number. -/
theorem encodeChar_of_lt {c : Char} (h : c.toNat < 128) :
    String.utf8EncodeChar c = [UInt8.ofNat c.toNat] := by
  simp [String.utf8EncodeChar, Nat.le_of_lt_succ h]

theorem encodeChar_ofNat_byte {b : UInt8} (h : b < 128) :
    String.utf8EncodeChar (Char.ofNat b.toNat) = [b] := by
  have hn : b.toNat < 128 := UInt8.lt_iff_toNat_lt.mp h
  rw [encodeChar_of_lt (by rwa [toNat_ofNat_byte]), toNat_ofNat_byte, UInt8.ofNat_toNat]

/-- Beyond ASCII no byte of a character is one of ASCII. -/
theorem le_of_mem_encodeChar {c : Char} (hc : 128 ≤ c.toNat) {b : UInt8}
    (hb : b ∈ String.utf8EncodeChar c) : 128 ≤ b.toNat := by
  have hv : 128 ≤ c.val.toNat := hc
  simp only [String.utf8EncodeChar] at hb
  split at hb
  · omega
  · split at hb
    · simp only [List.mem_cons, List.not_mem_nil, or_false] at hb
      rcases hb with rfl | rfl <;> simp only [UInt8.toNat_ofNat'] <;> omega
    · split at hb
      · simp only [List.mem_cons, List.not_mem_nil, or_false] at hb
        rcases hb with rfl | rfl | rfl <;> simp only [UInt8.toNat_ofNat'] <;> omega
      · simp only [List.mem_cons, List.not_mem_nil, or_false] at hb
        rcases hb with rfl | rfl | rfl | rfl <;> simp only [UInt8.toNat_ofNat'] <;> omega

/-- A byte of ASCII is written for the character of its number alone. -/
theorem mem_encode_iff {b : UInt8} (hb : b < 128) {s : String} :
    b ∈ encode s ↔ Char.ofNat b.toNat ∈ s.toList := by
  rw [encode_eq_flatMap, List.mem_flatMap]
  constructor
  · rintro ⟨c, hc, hm⟩
    by_cases h : c.toNat < 128
    · rw [encodeChar_of_lt h, List.mem_singleton] at hm
      rwa [hm, ofNat_toNat_byte h]
    · have hle := le_of_mem_encodeChar (Nat.not_lt.mp h) hm
      exact absurd (UInt8.lt_iff_toNat_lt.mp hb) (Nat.not_lt.mpr hle)
  · intro h
    refine ⟨_, h, ?_⟩
    rw [encodeChar_ofNat_byte hb]
    exact List.mem_singleton_self b

/-- Bytes of ASCII are what their characters are written as. -/
theorem encode_ofList_bytes {bytes : List UInt8} (h : ∀ b ∈ bytes, b < 128) :
    encode (String.ofList (bytes.map fun b ↦ Char.ofNat b.toNat)) = bytes := by
  rw [encode_eq_flatMap, String.toList_ofList]
  induction bytes with
  | nil => rfl
  | cons b bytes ih =>
    obtain ⟨hb, hrest⟩ := List.forall_mem_cons.mp h
    rw [List.map_cons, List.flatMap_cons, encodeChar_ofNat_byte hb, ih hrest]
    rfl

end ProxySettings.Utf8
