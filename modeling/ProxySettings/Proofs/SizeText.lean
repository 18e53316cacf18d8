import Mathlib.Data.List.TakeWhile
import ProxySettings.Proofs.DecimalText
import ProxySettings.Settings.Size

/-!
# What a size denotes

A size is read exactly if it has the form of sizes and the number of bytes that it denotes is
positive and fits in 64 bits. The number is that of its digits times the unit of its suffix.
-/

namespace ProxySettings

/-! ## Trimming -/

namespace Text

/-- Nothing is left of a text exactly if all of it is dropped. -/
theorem trimWhile_eq_nil_iff {p : Char → Bool} {cs : List Char} :
    trimWhile p cs = [] ↔ ∀ c ∈ cs, p c = true := by
  rw [trimWhile, dropEndWhile, List.reverse_eq_nil_iff, List.dropWhile_eq_nil_iff]
  constructor
  · intro h c hc
    rw [← List.takeWhile_append_dropWhile (p := p) (l := cs), List.mem_append] at hc
    rcases hc with hc | hc
    · exact List.mem_takeWhile_imp hc
    · exact h c (List.mem_reverse.mpr hc)
  · intro h c hc
    exact h c ((List.dropWhile_sublist p).subset (List.mem_reverse.mp hc))

end Text

namespace Size

/-! ## Forms of sizes -/

/-- A suffix and the number of bytes in its unit. -/
inductive IsUnit : List Char → Nat → Prop where
  | byte : IsUnit [] 1
  | kilo (c : Char) (h : c = 'k' ∨ c = 'K') : IsUnit [c] 1024
  | mega (c : Char) (h : c = 'm' ∨ c = 'M') : IsUnit [c] (1024 ^ 2)
  | giga (c : Char) (h : c = 'g' ∨ c = 'G') : IsUnit [c] (1024 ^ 3)

/-- Characters denote a number of bytes: an optional plus sign, one or more digits, and a suffix. -/
def Denotes (cs : List Char) (size : Nat) : Prop :=
  ∃ sign digits suffix unit, cs = sign ++ digits ++ suffix ∧ (sign = [] ∨ sign = ['+']) ∧
    digits ≠ [] ∧ (∀ c ∈ digits, Text.isDigit c = true) ∧ IsUnit suffix unit ∧
    size = Text.decimal digits * unit

/-- The units of single characters. -/
theorem unit?_eq (c : Char) : unit? c =
    if c = 'k' ∨ c = 'K' then some 1024
    else if c = 'm' ∨ c = 'M' then some (1024 ^ 2)
    else if c = 'g' ∨ c = 'G' then some (1024 ^ 3)
    else none := by
  by_cases hc : c.toNat < 128
  · have hall : ∀ n < 128, unit? (Char.ofNat n) =
        if Char.ofNat n = 'k' ∨ Char.ofNat n = 'K' then some 1024
        else if Char.ofNat n = 'm' ∨ Char.ofNat n = 'M' then some (1024 ^ 2)
        else if Char.ofNat n = 'g' ∨ Char.ofNat n = 'G' then some (1024 ^ 3)
        else none := by decide +kernel
    have h := hall c.toNat hc
    rwa [Char.ofNat_toNat] at h
  · have hne (d : Char) (hd : d.toNat < 128) : c ≠ d := fun he ↦ hc (he ▸ hd)
    have hlower : c.toLower = c := by
      apply dif_neg
      rintro ⟨-, hhigh⟩
      have hh : c.toNat ≤ 90 := UInt32.le_iff_toNat_le.mp hhigh
      omega
    rw [if_neg (not_or.mpr ⟨hne 'k' (by decide), hne 'K' (by decide)⟩),
      if_neg (not_or.mpr ⟨hne 'm' (by decide), hne 'M' (by decide)⟩),
      if_neg (not_or.mpr ⟨hne 'g' (by decide), hne 'G' (by decide)⟩), unit?, hlower]
    split
    · exact absurd rfl (hne 'k' (by decide))
    · exact absurd rfl (hne 'm' (by decide))
    · exact absurd rfl (hne 'g' (by decide))
    · rfl

theorem unit?_eq_some_iff {c : Char} {unit : Nat} : unit? c = some unit ↔ IsUnit [c] unit := by
  rw [unit?_eq]
  constructor
  · intro h
    split at h
    · next hk => exact Option.some.inj h ▸ .kilo c hk
    · split at h
      · next hm => exact Option.some.inj h ▸ .mega c hm
      · split at h
        · next hg => exact Option.some.inj h ▸ .giga c hg
        · cases h
  · rintro (_ | ⟨_, rfl | rfl⟩ | ⟨_, rfl | rfl⟩ | ⟨_, rfl | rfl⟩) <;> rfl

theorem unit?_of_isDigit {c : Char} (h : Text.isDigit c = true) : unit? c = none := by
  have hne (d : Char) (hd : Text.isDigit d = false) : c ≠ d := Text.ne_of_isDigit h hd
  rw [unit?_eq, if_neg (not_or.mpr ⟨hne 'k' (by decide), hne 'K' (by decide)⟩),
    if_neg (not_or.mpr ⟨hne 'm' (by decide), hne 'M' (by decide)⟩),
    if_neg (not_or.mpr ⟨hne 'g' (by decide), hne 'G' (by decide)⟩)]

/-- A number is read from one or more digits, which a plus sign may precede. -/
theorem count?_eq_some_iff {cs : List Char} {n : Nat} : count? cs = some n ↔
    ∃ sign digits, cs = sign ++ digits ∧ (sign = [] ∨ sign = ['+']) ∧ digits ≠ [] ∧
      (∀ c ∈ digits, Text.isDigit c = true) ∧ Text.decimal digits = n := by
  unfold count?
  constructor
  · intro h
    split at h
    · next digits => exact ⟨['+'], digits, rfl, .inr rfl, Text.number?_ten_eq_some_iff.mp h⟩
    · exact ⟨[], cs, rfl, .inl rfl, Text.number?_ten_eq_some_iff.mp h⟩
  · rintro ⟨sign, digits, rfl, rfl | rfl, hd⟩
    · split
      · next rest he =>
        rw [List.nil_append] at he
        exact absurd (hd.2.1 '+' (he ▸ List.mem_cons_self)) (by decide)
      · exact Text.number?_ten_eq_some_iff.mpr hd
    · exact Text.number?_ten_eq_some_iff.mpr hd

theorem split_of_unit {cs : List Char} {c : Char} {unit : Nat} (h : unit? c = some unit) :
    split (cs ++ [c]) = (cs, unit) := by
  rw [split, List.getLast?_concat, Option.bind_some, h, List.dropLast_concat]

theorem split_of_no_unit {cs : List Char} (h : cs.getLast?.bind unit? = none) :
    split cs = (cs, 1) := by
  rw [split, h]

/-- The last character is the suffix if it is one of a unit, and otherwise there is none. -/
theorem exists_of_split (cs : List Char) :
    ∃ suffix, cs = (split cs).1 ++ suffix ∧ IsUnit suffix (split cs).2 := by
  cases h : cs.getLast?.bind unit? with
  | none =>
    rw [split_of_no_unit h]
    exact ⟨[], (List.append_nil cs).symm, .byte⟩
  | some unit =>
    obtain ⟨c, hc, hu⟩ := Option.bind_eq_some_iff.mp h
    obtain ⟨front, rfl⟩ := List.getLast?_eq_some_iff.mp hc
    rw [split_of_unit hu]
    exact ⟨[c], rfl, unit?_eq_some_iff.mp hu⟩

/-- A suffix after a digit is split off. -/
theorem split_append {cs suffix : List Char} {c : Char} {unit : Nat}
    (hc : Text.isDigit c = true) (hu : IsUnit suffix unit) :
    split (cs ++ [c] ++ suffix) = (cs ++ [c], unit) := by
  have hletter {d : Char} (h : IsUnit [d] unit) : split (cs ++ [c] ++ [d]) = (cs ++ [c], unit) :=
    split_of_unit (unit?_eq_some_iff.mpr h)
  cases hu with
  | byte =>
    rw [List.append_nil]
    refine split_of_no_unit ?_
    rw [List.getLast?_concat, Option.bind_some, unit?_of_isDigit hc]
  | kilo d h => exact hletter (.kilo d h)
  | mega d h => exact hletter (.mega d h)
  | giga d h => exact hletter (.giga d h)

/-- Characters denote a number of bytes exactly if the number before the suffix can be read. -/
theorem denotes_iff {cs : List Char} {size : Nat} :
    Denotes cs size ↔ ∃ n, count? (split cs).1 = some n ∧ n * (split cs).2 = size := by
  constructor
  · rintro ⟨sign, digits, suffix, unit, rfl, hs, hne, hd, hu, rfl⟩
    obtain ⟨front, c, rfl⟩ : ∃ front c, digits = front ++ [c] :=
      ⟨_, _, (List.dropLast_concat_getLast hne).symm⟩
    have hc : Text.isDigit c = true :=
      hd c (List.mem_append_right front (List.mem_singleton_self c))
    have hsplit : split (sign ++ front ++ [c] ++ suffix) = (sign ++ front ++ [c], unit) :=
      split_append hc hu
    rw [List.append_assoc sign front [c]] at hsplit
    rw [hsplit]
    exact ⟨_, count?_eq_some_iff.mpr ⟨sign, front ++ [c], rfl, hs, hne, hd, rfl⟩, rfl⟩
  · rintro ⟨n, hn, rfl⟩
    obtain ⟨suffix, hcs, hu⟩ := exists_of_split cs
    obtain ⟨sign, digits, hsplit, hs, hne, hd, rfl⟩ := count?_eq_some_iff.mp hn
    exact ⟨sign, digits, suffix, _, by rw [← hsplit]; exact hcs, hs, hne, hd, hu, rfl⟩

/-- Characters are read exactly if they denote a positive number of bytes of 64 bits. -/
theorem ofChars?_eq_some_iff {cs : List Char} {size : Nat} :
    ofChars? cs = some size ↔ Denotes cs size ∧ 0 < size ∧ size < 2 ^ 64 := by
  have hb : bound = 2 ^ 64 := rfl
  rw [denotes_iff, ofChars?]
  simp only [Option.bind_eq_bind, Option.bind_eq_some_iff, hb]
  constructor
  · rintro ⟨n, hn, h⟩
    split at h
    · next hs =>
      obtain rfl := Option.some.inj h
      exact ⟨⟨n, hn, rfl⟩, hs⟩
    · cases h
  · rintro ⟨⟨n, hn, rfl⟩, hs⟩
    exact ⟨n, hn, if_pos hs⟩

/-- A text is read as no limit exactly if it is blank. -/
theorem parse_eq_ok_none_iff {text : String} :
    parse text = .ok none ↔ ∀ c ∈ text.toList, Text.isBlank c = true := by
  rw [← Text.trimWhile_eq_nil_iff, parse]
  split
  · next h => simp [h]
  · next h =>
    split
    · exact ⟨fun he ↦ (nomatch Except.ok.inj he), fun he ↦ absurd he h⟩
    · exact ⟨(nomatch ·), fun he ↦ absurd he h⟩

/-- A text is read as a limit exactly if it denotes a positive number of bytes of 64 bits; blanks
around it do not count. -/
theorem parse_eq_ok_some_iff {text : String} {size : Nat} : parse text = .ok (some size) ↔
    Denotes (Text.trimWhile Text.isBlank text.toList) size ∧ 0 < size ∧ size < 2 ^ 64 := by
  rw [← ofChars?_eq_some_iff, parse]
  split
  · next h =>
    rw [h]
    exact ⟨fun he ↦ (nomatch Except.ok.inj he), (nomatch ·)⟩
  · cases ofChars? (Text.trimWhile Text.isBlank text.toList) <;> simp

end Size

end ProxySettings
