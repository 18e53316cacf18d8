/-!
# ASCII letter case

Case of the twenty-six ASCII letters; every other character is its own lower and upper case.
-/

namespace ProxySettings.Text

/-- The lower-case form under the ASCII letter map. -/
def asciiLower (s : String) : String := String.ofList (s.toList.map Char.toLower)

/-- Only the ASCII capitals change. -/
theorem toNat_toLower (c : Char) :
    c.toLower.toNat = if 65 ≤ c.toNat ∧ c.toNat ≤ 90 then c.toNat + 32 else c.toNat := by
  by_cases h : c.val ≥ 'A'.val ∧ c.val ≤ 'Z'.val
  · have hlow : 65 ≤ c.toNat := UInt32.le_iff_toNat_le.mp h.1
    have hhigh : c.toNat ≤ 90 := UInt32.le_iff_toNat_le.mp h.2
    have hl : c.toLower.val = c.val + ('a'.val - 'A'.val) := congrArg Char.val (dif_pos h)
    have hsum : (c.val + ('a'.val - 'A'.val)).toNat = (c.toNat + 32) % 2 ^ 32 :=
      UInt32.toNat_add _ _
    have hn : c.toLower.toNat = (c.toNat + 32) % 2 ^ 32 := (congrArg UInt32.toNat hl).trans hsum
    rw [if_pos ⟨hlow, hhigh⟩]
    omega
  · have hl : c.toLower = c := dif_neg h
    rw [if_neg fun hc ↦ h ⟨UInt32.le_iff_toNat_le.mpr hc.1, UInt32.le_iff_toNat_le.mpr hc.2⟩, hl]

/-- Only the lower-case ASCII letters change. -/
theorem toNat_toUpper (c : Char) :
    c.toUpper.toNat = if 97 ≤ c.toNat ∧ c.toNat ≤ 122 then c.toNat - 32 else c.toNat := by
  by_cases h : 'a'.val ≤ c.val ∧ c.val ≤ 'z'.val
  · have hlow : 97 ≤ c.toNat := UInt32.le_iff_toNat_le.mp h.1
    have hhigh : c.toNat ≤ 122 := UInt32.le_iff_toNat_le.mp h.2
    have hl : c.toUpper.val = c.val + ('A'.val - 'a'.val) := by
      delta Char.toUpper
      rw [dif_pos h]
    have hdiff : ('A'.val - 'a'.val).toNat = 4294967264 := by decide
    have hn : c.toUpper.toNat = (c.toNat + 4294967264) % 2 ^ 32 := by
      rw [Char.toNat, hl, UInt32.toNat_add, hdiff]
      rfl
    rw [if_pos ⟨hlow, hhigh⟩]
    omega
  · have hl : c.toUpper = c := dif_neg h
    rw [if_neg fun hc ↦ h ⟨UInt32.le_iff_toNat_le.mpr hc.1, UInt32.le_iff_toNat_le.mpr hc.2⟩, hl]

/-- Characters are equal up to case if they are equal or one is a capital and the other its lower
case. -/
theorem toLower_eq_toLower_iff {c d : Char} : c.toLower = d.toLower ↔
    c = d ∨ (65 ≤ c.toNat ∧ c.toNat ≤ 90 ∧ d.toNat = c.toNat + 32) ∨
      65 ≤ d.toNat ∧ d.toNat ≤ 90 ∧ c.toNat = d.toNat + 32 := by
  rw [← Char.toNat_inj, ← Char.toNat_inj, toNat_toLower, toNat_toLower]
  split <;> split <;> omega

/-- Equality up to the case of ASCII letters. -/
def eqIgnoringCase (s t : String) : Bool := asciiLower s == asciiLower t

/-- An ASCII decimal digit. -/
def isDigit (c : Char) : Bool := '0' ≤ c && c ≤ '9'

/-- An ASCII letter or digit. -/
def isAlphanumeric (c : Char) : Bool :=
  isDigit c || ('a' ≤ c && c ≤ 'z') || ('A' ≤ c && c ≤ 'Z')

theorem toNat_lt_of_isAlphanumeric {c : Char} (h : isAlphanumeric c = true) : c.toNat < 128 := by
  simp only [isAlphanumeric, isDigit, Bool.or_eq_true, Bool.and_eq_true, decide_eq_true_eq,
    Char.le_def, UInt32.le_iff_toNat_le] at h
  change c.val.toNat < 128
  simp only [Char.reduceVal, UInt32.reduceToNat] at h
  omega

/-- The value of a hexadecimal digit of either case. -/
def hexValue? (c : Char) : Option Nat :=
  if isDigit c then some (c.toNat - '0'.toNat)
  else if 'a' ≤ c && c ≤ 'f' then some (c.toNat - 'a'.toNat + 10)
  else if 'A' ≤ c && c ≤ 'F' then some (c.toNat - 'A'.toNat + 10)
  else none

/-- The value of a digit in a radix up to sixteen. -/
def digitValue? (radix : Nat) (c : Char) : Option Nat :=
  (hexValue? c).filter (· < radix)

/-- The number denoted by a text of one or more digits, most significant first. -/
def number? (radix : Nat) (digits : List Char) : Option Nat :=
  if digits.isEmpty then none
  else digits.foldlM (fun n c ↦ (digitValue? radix c).map (radix * n + ·)) 0

/-- Lower-case hexadecimal text of a number, without leading zeros. -/
def hexText (n : Nat) : String := String.ofList (Nat.toDigits 16 n)

/-- Two lower-case hexadecimal digits for one byte. -/
def hexByte (b : UInt8) : List Char :=
  [Nat.digitChar (b.toNat / 16), Nat.digitChar (b.toNat % 16)]

/-- Two lower-case hexadecimal digits for each byte. -/
def hexBytes (bs : List UInt8) : String := String.ofList (bs.flatMap hexByte)

end ProxySettings.Text
