import ProxySettings.Proofs.HashForm
import ProxySettings.Proofs.SizeText

/-!
# The grammar of sizes

Blanks around a size do not count. What is left is nothing, or it has the form of sizes, or the
whole text is refused. The suffix shows in the last byte of a text, and a text can always be cut
before a byte that is a suffix.
-/

namespace ProxySettings

/-! ## Trimming -/

namespace Text

variable {p : Char → Bool}

/-- A text is a core with characters of a class around it, and the core has none at its ends. -/
def IsTrimmed (p : Char → Bool) (cs core : List Char) : Prop :=
  ∃ before after, cs = before ++ core ++ after ∧ (∀ c ∈ before, p c = true) ∧
    (∀ c ∈ after, p c = true) ∧ (∀ c ∈ core.head?, p c = false) ∧ ∀ c ∈ core.getLast?, p c = false

theorem dropWhile_append_of_head {dropped cs : List Char} (hd : ∀ c ∈ dropped, p c = true)
    (hc : ∀ c ∈ cs.head?, p c = false) : (dropped ++ cs).dropWhile p = cs := by
  rw [List.dropWhile_append_of_pos hd]
  cases cs with
  | nil => rfl
  | cons c cs => exact List.dropWhile_cons_of_neg (by simp [hc c rfl])

theorem eq_false_of_head?_dropWhile {cs : List Char} {c : Char}
    (h : c ∈ (cs.dropWhile p).head?) : p c = false := by
  have hh := List.head?_dropWhile_not p cs
  rw [h] at hh
  exact hh

/-- Trimming leaves the core. -/
theorem trimWhile_eq_iff {cs core : List Char} : trimWhile p cs = core ↔ IsTrimmed p cs core := by
  rw [trimWhile, dropEndWhile]
  constructor
  · rintro rfl
    let middle := cs.dropWhile p
    have hcut : middle = (middle.reverse.dropWhile p).reverse ++
        (middle.reverse.takeWhile p).reverse := by
      rw [← List.reverse_append, List.takeWhile_append_dropWhile, List.reverse_reverse]
    refine ⟨cs.takeWhile p, (middle.reverse.takeWhile p).reverse, ?_,
      fun c hc ↦ List.mem_takeWhile_imp hc,
      fun c hc ↦ List.mem_takeWhile_imp (List.mem_reverse.mp hc), fun c hc ↦ ?_, fun c hc ↦ ?_⟩
    · rw [List.append_assoc, ← hcut, List.takeWhile_append_dropWhile]
    · have hm : c ∈ middle.head? := by
        rw [hcut, List.head?_append, hc]
        rfl
      exact eq_false_of_head?_dropWhile hm
    · rw [List.getLast?_reverse] at hc
      exact eq_false_of_head?_dropWhile hc
  · rintro ⟨before, after, rfl, hb, ha, hh, hl⟩
    by_cases hcore : core = []
    · have hall : ∀ c ∈ before ++ core ++ after, p c = true := by
        intro c hc
        rw [hcore, List.append_nil, List.mem_append] at hc
        exact hc.elim (hb c) (ha c)
      rw [List.dropWhile_eq_nil_iff.mpr hall, hcore]
      rfl
    · have hfirst : (core ++ after).head? = core.head? := by
        rw [List.head?_append, Option.or_of_isSome (List.isSome_head?.mpr hcore)]
      have hlast : core.reverse.head? = core.getLast? := List.head?_reverse
      rw [List.append_assoc, dropWhile_append_of_head hb (hfirst ▸ hh), List.reverse_append,
        dropWhile_append_of_head (fun c hc ↦ ha c (List.mem_reverse.mp hc)) (hlast ▸ hl),
        List.reverse_reverse]

end Text

/-! ## The last byte -/

namespace Size

/-- The digits of a size and the number of bytes in its unit, told from the last byte of the text;
none if the text cannot be cut before that byte. -/
def splitBytes? (text : String) : Option (String × Nat) :=
  match (Utf8.encode text).getLast?.bind fun b ↦ unit? (Char.ofNat b.toNat) with
  | some unit =>
    (PasswordHash.splitAtByte? text (text.utf8ByteSize - 1)).map fun parts ↦ (parts.1, unit)
  | none => some (text, 1)

/-- Only characters of ASCII are suffixes. -/
theorem unit?_of_le {c : Char} (h : 128 ≤ c.toNat) : unit? c = none := by
  have hne (d : Char) (hd : d.toNat < 128) : c ≠ d := by
    rintro rfl
    omega
  rw [unit?_eq, if_neg (not_or.mpr ⟨hne 'k' (by decide), hne 'K' (by decide)⟩),
    if_neg (not_or.mpr ⟨hne 'm' (by decide), hne 'M' (by decide)⟩),
    if_neg (not_or.mpr ⟨hne 'g' (by decide), hne 'G' (by decide)⟩)]

/-- The last byte of a text is that of a suffix exactly if the last character is the suffix. -/
theorem unit?_last_byte (text : String) :
    ((Utf8.encode text).getLast?.bind fun b ↦ unit? (Char.ofNat b.toNat)) =
      text.toList.getLast?.bind unit? := by
  rcases List.eq_nil_or_concat text.toList with hnil | ⟨front, c, hcs⟩
  · rw [Utf8.encode_eq_flatMap, hnil]
    rfl
  · have hlast : (Utf8.encode text).getLast? = (String.utf8EncodeChar c).getLast? := by
      have hsome : (String.utf8EncodeChar c).getLast?.isSome = true :=
        List.getLast?_isSome.mpr String.utf8EncodeChar_ne_nil
      rw [Utf8.encode_eq_flatMap, hcs, List.concat_eq_append, List.flatMap_append,
        List.getLast?_append, List.flatMap_singleton, Option.or_of_isSome hsome]
    rw [hlast, hcs, List.concat_eq_append, List.getLast?_concat, Option.bind_some]
    by_cases hc : c.toNat < 128
    · rw [Utf8.encodeChar_of_lt hc, List.getLast?_singleton, Option.bind_some,
        Utf8.ofNat_toNat_byte hc]
    · rw [unit?_of_le (Nat.not_lt.mp hc), Option.bind_eq_none_iff]
      intro b hb
      have hle := Utf8.le_of_mem_encodeChar (Nat.not_lt.mp hc) (List.mem_of_getLast? hb)
      exact unit?_of_le (by rwa [Utf8.toNat_ofNat_byte])

/-- Cutting before the last byte never fails, and gives the same parts as cutting before the last
character. -/
theorem splitBytes?_eq (text : String) :
    splitBytes? text = some (String.ofList (split text.toList).1, (split text.toList).2) := by
  rw [splitBytes?, unit?_last_byte]
  cases h : text.toList.getLast?.bind unit? with
  | none =>
    rw [split_of_no_unit h, String.ofList_toList]
  | some unit =>
    obtain ⟨c, hc, hu⟩ := Option.bind_eq_some_iff.mp h
    obtain ⟨front, hcs⟩ := List.getLast?_eq_some_iff.mp hc
    have htext : text = String.ofList front ++ String.singleton c := by
      rw [← String.toList_inj, hcs, String.toList_append, String.toList_ofList,
        String.toList_singleton]
    have hsize : c.utf8Size = 1 := by
      have hlt : c.toNat < 128 := by
        by_contra hge
        rw [unit?_of_le (Nat.not_lt.mp hge)] at hu
        cases hu
      rw [Char.utf8Size_eq_one_iff, UInt32.le_iff_toNat_le]
      exact Nat.le_of_lt_succ hlt
    have hcut : PasswordHash.splitAtByte? text (text.utf8ByteSize - 1) =
        some (String.ofList front, String.singleton c) := by
      refine PasswordHash.splitAtByte?_eq_some_iff.mpr ⟨htext, ?_⟩
      rw [htext, String.utf8ByteSize_append, String.utf8ByteSize_singleton, hsize,
        Nat.add_sub_cancel]
    rw [hcs, split_of_unit hu, hcut]
    rfl

/-! ## The grammar -/

/-- Characters have the form of a size: an optional plus sign, one or more digits of a number of 64
bits, and at most one suffix. The size is the exact product, and is positive and of 64 bits too. -/
def HasForm (cs : List Char) (size : Nat) : Prop :=
  ∃ sign digits suffix unit, cs = sign ++ digits ++ suffix ∧ (sign = [] ∨ sign = ['+']) ∧
    digits ≠ [] ∧ (∀ c ∈ digits, Text.isDigit c = true) ∧ IsUnit suffix unit ∧
    Text.decimal digits ≤ 2 ^ 64 - 1 ∧ size = Text.decimal digits * unit ∧
    1 ≤ size ∧ size ≤ 2 ^ 64 - 1

theorem IsUnit.pos {suffix : List Char} {unit : Nat} (h : IsUnit suffix unit) : 0 < unit := by
  cases h <;> decide

/-- A size of 64 bits has a number of 64 bits before its suffix. -/
theorem hasForm_iff {cs : List Char} {size : Nat} :
    HasForm cs size ↔ Denotes cs size ∧ 0 < size ∧ size < 2 ^ 64 := by
  constructor
  · rintro ⟨sign, digits, suffix, unit, hcs, hs, hne, hd, hu, -, hsize, hpos, hlt⟩
    exact ⟨⟨sign, digits, suffix, unit, hcs, hs, hne, hd, hu, hsize⟩, hpos, by omega⟩
  · rintro ⟨⟨sign, digits, suffix, unit, hcs, hs, hne, hd, hu, hsize⟩, hpos, hlt⟩
    have hle : Text.decimal digits ≤ size := hsize ▸ Nat.le_mul_of_pos_right _ hu.pos
    exact ⟨sign, digits, suffix, unit, hcs, hs, hne, hd, hu, by omega, hsize, hpos, by omega⟩

theorem toList_trim (text : String) :
    (Text.trim text).toList = Text.trimWhile Text.isBlank text.toList := by
  rw [Text.trim, String.toList_ofList]

/-- A text is refused exactly if it is neither blank nor has the form of a size; the refusal carries
the text with its blanks. -/
theorem parse_eq_error_iff {text : String} {e : ConfigError} : parse text = .error e ↔
    Text.trim text ≠ "" ∧ (∀ size, ¬HasForm (Text.trim text).toList size) ∧
      e = .invalidFormat .size text := by
  have hform : (∀ size, ¬HasForm (Text.trim text).toList size) ↔
      ofChars? (Text.trim text).toList = none := by
    simp only [hasForm_iff, ← ofChars?_eq_some_iff, Option.eq_none_iff_forall_ne_some, ne_eq]
  rw [hform, ne_eq, ← String.toList_eq_nil_iff, toList_trim, parse]
  split
  · next h => simp [h]
  · next h =>
    cases ofChars? (Text.trimWhile Text.isBlank text.toList) with
    | none =>
      simp only [Except.error.injEq, true_and]
      exact ⟨fun he ↦ ⟨h, he.symm⟩, fun he ↦ he.2.symm⟩
    | some size => simp only [reduceCtorEq, false_and, and_false]

/-- A text follows the grammar of sizes or is refused. Of the text between the blanks at its ends
nothing is left, and no limit is set; or it has the form of a size, which is read exactly; or the
text is refused as it was given. The digits of the text can be cut off by bytes. -/
theorem parse_follows_grammar (text : String) :
    let core := Text.trim text
    (∀ cs, Text.IsTrimmed Text.isBlank text.toList cs ↔ cs = core.toList) ∧
    (parse text = .ok none ↔ core = "") ∧
    (∀ size, parse text = .ok (some size) ↔ HasForm core.toList size) ∧
    (∀ e, parse text = .error e ↔ core ≠ "" ∧ (∀ size, ¬HasForm core.toList size) ∧
      e = .invalidFormat .size text) ∧
    splitBytes? core = some (String.ofList (split core.toList).1, (split core.toList).2) := by
  intro core
  refine ⟨fun cs ↦ ?_, ?_, fun size ↦ ?_, fun e ↦ parse_eq_error_iff, splitBytes?_eq core⟩
  · rw [toList_trim, ← Text.trimWhile_eq_iff, eq_comm]
  · rw [parse_eq_ok_none_iff, ← Text.trimWhile_eq_nil_iff, ← toList_trim,
      String.toList_eq_nil_iff]
  · rw [parse_eq_ok_some_iff, hasForm_iff, toList_trim]

example : parse " +15K\n" = .ok (some 15360) := rfl

example : parse " 1.5m" = .error (.invalidFormat .size " 1.5m") := rfl

end Size

end ProxySettings
