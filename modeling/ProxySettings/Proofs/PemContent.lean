import ProxySettings.Certs.Pem
import ProxySettings.Proofs.Base64
import ProxySettings.Proofs.Lists

/-!
# The content of sections

The content of a section is base64 with spaces anywhere. It is read in blocks of eight symbols, the
last of which may have filling; reading what was encoded gives back the bytes.
-/

namespace ProxySettings.Pem

/-- The values of the symbols of bytes; filling has none. -/
def symbolsOf (bytes : List UInt8) : List (Option Nat) :=
  (Base64.sextets bytes).map some ++
    List.replicate (Base64.fillLength (Base64.sextets bytes).length) none

theorem block_append (xs ys : List UInt8) :
    block (xs ++ ys) = do return (← block xs) ++ (← block ys) := by
  rw [block, List.mapM_append]
  rfl

theorem block_encode (bytes : List UInt8) :
    block (Base64.encode bytes) = .ok (symbolsOf bytes) := by
  have hsymbols {vs : List Nat} (h : ∀ v ∈ vs, v < 64) :
      block (vs.map Base64.symbol) = .ok (vs.map some) := by
    induction vs with
    | nil => rfl
    | cons v vs ih =>
      obtain ⟨hv, hvs⟩ := List.forall_mem_cons.mp h
      have hrest := ih hvs
      rw [block] at hrest
      rw [List.map_cons, block, List.mapM_cons, if_neg (Base64.symbol_ne_padByte v hv)]
      simp only [Base64.value?_symbol v hv, hrest]
      rfl
  have hfill (n : Nat) : block (List.replicate n Base64.padByte) = .ok (List.replicate n none) := by
    induction n with
    | zero => rfl
    | succ n ih =>
      rw [block] at ih
      rw [List.replicate_succ, block, List.mapM_cons, if_pos rfl, ih]
      rfl
  rw [Base64.encode_eq, block_append, hsymbols (Base64.sextets_lt bytes), hfill]
  rfl

theorem length_symbolsOf (bytes : List UInt8) :
    (symbolsOf bytes).length = (bytes.length + 2) / 3 * 4 := by
  rw [← Base64.length_encode, Base64.encode_eq, symbolsOf]
  simp only [List.length_append, List.length_map, List.length_replicate]

/-- Bytes of whole groups have no filling. -/
theorem symbolsOf_of_whole {bytes : List UInt8} (h : bytes.length % 3 = 0) :
    symbolsOf bytes = (Base64.sextets bytes).map some := by
  rw [symbolsOf, Base64.fillLength, Base64.length_sextets_mod_of_whole h]
  exact List.append_nil _

theorem symbolsOf_append {xs : List UInt8} (h : xs.length % 3 = 0) (ys : List UInt8) :
    symbolsOf (xs ++ ys) = symbolsOf xs ++ symbolsOf ys := by
  have hmod := Base64.length_sextets_mod_of_whole h
  have hfill : Base64.fillLength ((Base64.sextets xs).length + (Base64.sextets ys).length) =
      Base64.fillLength (Base64.sextets ys).length := by
    rw [Base64.fillLength, Base64.fillLength]
    omega
  rw [symbolsOf_of_whole h, symbolsOf, symbolsOf, Base64.sextets_append h, List.length_append,
    hfill, List.map_append, List.append_assoc]

theorem wholeGroup_symbolsOf {bytes : List UInt8} (h : bytes.length % 3 = 0) :
    wholeGroup (symbolsOf bytes) = .ok bytes := by
  have hvalues (vs : List Nat) : (vs.map some).mapM id = some vs :=
    (mapM_map_eq_some fun _ _ ↦ rfl)
  rw [wholeGroup, symbolsOf_of_whole h, hvalues]
  exact congrArg Except.ok (Base64.bytesOf_sextets bytes)

/-- Up to three bytes are the last group. -/
theorem lastGroup_symbolsOf {bytes : List UInt8} (h : bytes.length ≤ 3) :
    lastGroup (symbolsOf bytes) = .ok bytes := by
  have hround := Base64.bytesOf_sextets bytes
  match bytes, h, hround with
  | [], _, _ => rfl
  | [x], _, hround => exact congrArg Except.ok hround
  | [x, y], _, hround => exact congrArg Except.ok hround
  | [x, y, z], _, hround =>
    rw [symbolsOf_of_whole (by simp)]
    exact congrArg Except.ok hround

/-- A last block is one group or two. -/
theorem contentOf_encode_last (blocks : Nat) {content : List UInt8} (h : content.length ≤ 6) :
    contentOf (blocks + 1) (Base64.encode content) = .ok content := by
  have hlen := Base64.length_encode content
  rw [contentOf, List.take_of_length_le (by omega), List.drop_of_length_le (by omega),
    block_encode]
  change (if (symbolsOf content).length ≤ 4 then lastGroup (symbolsOf content) else _) = _
  rw [length_symbolsOf]
  split
  · exact lastGroup_symbolsOf (by omega)
  -- The first group is whole, since something follows it.
  · have hhead : (content.take 3).length = 3 := List.length_take_of_le (by omega)
    have htail : (content.drop 3).length = content.length - 3 := List.length_drop
    have hsymbols :
        symbolsOf content = symbolsOf (content.take 3) ++ symbolsOf (content.drop 3) := by
      rw [← symbolsOf_append (by rw [hhead]), List.take_append_drop]
    have hfour : (symbolsOf (content.take 3)).length = 4 := by rw [length_symbolsOf, hhead]
    rw [hsymbols, List.take_left' hfour, List.drop_left' hfour,
      wholeGroup_symbolsOf (by rw [hhead]), lastGroup_symbolsOf (by omega)]
    exact congrArg Except.ok (List.take_append_drop 3 content)

theorem contentOf_encode {blocks : Nat} {content : List UInt8}
    (h : (Base64.encode content).length < 8 * blocks) :
    contentOf blocks (Base64.encode content) = .ok content := by
  induction blocks generalizing content with
  | zero => exact absurd h (Nat.not_lt_zero _)
  | succ blocks ih =>
    -- A block of eight symbols is six bytes, and with more bytes left it is not the last one.
    rcases Nat.lt_or_ge 6 content.length with hlong | hshort
    · have hhead : (content.take 6).length = 6 := List.length_take_of_le (by omega)
      have hencode : Base64.encode content =
          Base64.encode (content.take 6) ++ Base64.encode (content.drop 6) := by
        rw [← Base64.encode_append (by rw [hhead]), List.take_append_drop]
      have height : (Base64.encode (content.take 6)).length = 8 := by
        rw [Base64.length_encode, hhead]
      have hne : (Base64.encode (content.drop 6)).isEmpty = false := by
        rw [List.isEmpty_eq_false_iff, ne_eq, Base64.encode_eq_nil_iff, List.drop_eq_nil_iff]
        omega
      have hrest : (Base64.encode (content.drop 6)).length < 8 * blocks := by
        rw [hencode, List.length_append, height] at h
        omega
      rw [contentOf, hencode, List.take_left' height, List.drop_left' height, block_encode]
      change (if (Base64.encode (content.drop 6)).isEmpty = true then _ else _) = _
      rw [hne, if_neg Bool.false_ne_true, wholeGroup_symbolsOf (by rw [hhead]), ih hrest]
      exact congrArg Except.ok (List.take_append_drop 6 content)
    · exact contentOf_encode_last blocks hshort

/-- What is encoded has no spaces, and is read back. -/
theorem decodeContent_encode (content : List UInt8) :
    decodeContent (Base64.encode content) = .ok content := by
  have hspaces : (Base64.encode content).filter (!isContentSpace ·) = Base64.encode content :=
    List.filter_eq_self.mpr (Base64.forall_mem_encode (by decide) (by decide) content)
  rw [decodeContent, hspaces]
  exact contentOf_encode (by omega)

end ProxySettings.Pem
