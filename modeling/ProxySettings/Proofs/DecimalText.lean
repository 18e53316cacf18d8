import Mathlib.Algebra.Group.Nat.Defs
import ProxySettings.Text.Ascii

/-!
# Decimal digits

Decimal digits denote a number, highest first. A number is read from one or more of them, and the
digits that it is written with are read as the number.
-/

namespace ProxySettings.Text

/-! ## Reading -/

/-- A digit more is at most a power more. -/
theorem add_one_mul_pow_le {b d v : Nat} (hd : d < b) (k : Nat) :
    (v * b + d + 1) * b ^ k ≤ (v + 1) * b ^ (k + 1) := by
  rw [Nat.pow_succ', ← Nat.mul_assoc, Nat.succ_mul v b]
  exact Nat.mul_le_mul_right _ (by omega)

/-- The value of a decimal digit. -/
def digitNumber (c : Char) : Nat := c.toNat - '0'.toNat

/-- The number that decimal digits denote, highest first. -/
def decimal : List Char → Nat
  | [] => 0
  | c :: rest => digitNumber c * 10 ^ rest.length + decimal rest

theorem isDigit_iff {c : Char} : isDigit c = true ↔ 48 ≤ c.toNat ∧ c.toNat ≤ 57 := by
  rw [isDigit, Bool.and_eq_true, decide_eq_true_eq, decide_eq_true_eq, Char.le_def, Char.le_def,
    UInt32.le_iff_toNat_le, UInt32.le_iff_toNat_le]
  rfl

/-- Letters are no digits to the base ten. -/
theorem digitValue?_ten (c : Char) :
    digitValue? 10 c = if isDigit c then some (digitNumber c) else none := by
  rw [digitValue?, hexValue?]
  split
  · next h =>
    rw [isDigit_iff] at h
    have hlt : digitNumber c < 10 := by
      rw [digitNumber]
      change c.toNat - 48 < 10
      omega
    exact Option.filter_some_pos (decide_eq_true hlt)
  · split
    · exact Option.filter_some_neg (by simp)
    · split
      · exact Option.filter_some_neg (by simp)
      · rfl

/-- Reading digits after a number. -/
theorem foldlM_digits_eq_some_iff {digits : List Char} {m n : Nat} :
    digits.foldlM (fun n c ↦ (digitValue? 10 c).map (10 * n + ·)) m = some n ↔
      (∀ c ∈ digits, isDigit c = true) ∧ m * 10 ^ digits.length + decimal digits = n := by
  induction digits generalizing m with
  | nil => simp [decimal]
  | cons c rest ih =>
    have hpow : (10 * m + digitNumber c) * 10 ^ rest.length + decimal rest =
        m * 10 ^ (c :: rest).length + decimal (c :: rest) := by
      rw [decimal, List.length_cons, Nat.pow_succ', Nat.add_mul, ← Nat.mul_assoc, Nat.mul_comm m 10,
        Nat.add_assoc]
    rw [List.foldlM_cons, digitValue?_ten, List.forall_mem_cons]
    by_cases hc : isDigit c = true
    · rw [if_pos hc, Option.map_some, Option.bind_eq_bind, Option.bind_some, ih, hpow]
      simp only [hc, true_and]
    · rw [if_neg hc]
      simp [hc]

/-- A number is read from one or more digits. -/
theorem number?_ten_eq_some_iff {digits : List Char} {n : Nat} :
    number? 10 digits = some n ↔
      digits ≠ [] ∧ (∀ c ∈ digits, isDigit c = true) ∧ decimal digits = n := by
  rw [number?]
  split
  · next h => simp [List.isEmpty_iff.mp h]
  · next h =>
    rw [foldlM_digits_eq_some_iff, Nat.zero_mul, Nat.zero_add]
    exact ⟨fun hn ↦ ⟨fun he ↦ h (List.isEmpty_iff.mpr he), hn⟩, fun hn ↦ hn.2⟩

/-! ## Writing -/

theorem ofDigitChars_ten_eq (ds : List Char) (m : Nat) :
    Nat.ofDigitChars 10 ds m = m * 10 ^ ds.length + decimal ds := by
  induction ds generalizing m with
  | nil => simp [decimal]
  | cons c ds ih =>
    rw [Nat.ofDigitChars_cons, ih, decimal, digitNumber, List.length_cons, Nat.pow_succ',
      Nat.add_mul, ← Nat.mul_assoc, Nat.mul_comm m 10, Nat.add_assoc]

theorem decimal_toDigits (n : Nat) : decimal (Nat.toDigits 10 n) = n := by
  have h := ofDigitChars_ten_eq (Nat.toDigits 10 n) 0
  rw [Nat.ofDigitChars_ten_toDigits, Nat.zero_mul, Nat.zero_add] at h
  exact h.symm

theorem isDigit_of_mem_toDigits {n : Nat} {c : Char} (h : c ∈ Nat.toDigits 10 n) :
    isDigit c = true :=
  Nat.isDigit_of_mem_toDigits (by decide) (by decide) h

theorem toList_toString_nat (n : Nat) : (toString n).toList = Nat.toDigits 10 n := by
  rw [Nat.toString_eq_ofList_toDigits, String.toList_ofList]

/-- A number that is written is read back. -/
theorem number?_toDigits (n : Nat) : number? 10 (Nat.toDigits 10 n) = some n :=
  number?_ten_eq_some_iff.mpr
    ⟨Nat.toDigits_ne_nil, fun _ h ↦ isDigit_of_mem_toDigits h, decimal_toDigits n⟩

/-- Only zero is written with a first zero. -/
theorem head?_toDigits {n : Nat} (h : n ≠ 0) : (Nat.toDigits 10 n).head? ≠ some '0' := by
  induction n using Nat.strongRecOn with
  | ind n ih =>
    rw [Nat.toDigits_eq_if (by decide)]
    split
    · next hn =>
      have hd : ∀ n < 10, n ≠ 0 → n.digitChar ≠ '0' := by decide
      simpa using hd n hn h
    · next hn =>
      rw [List.head?_append, Option.or_of_isSome (by simp [Nat.toDigits_ne_nil])]
      exact ih (n / 10) (by omega) (by omega)

/-- A written number starts with a digit, which is a zero only if it is the only digit. -/
theorem exists_toDigits (n : Nat) :
    ∃ d ds, Nat.toDigits 10 n = d :: ds ∧ isDigit d = true ∧ (d = '0' → ds = []) := by
  cases h : Nat.toDigits 10 n with
  | nil => exact absurd h Nat.toDigits_ne_nil
  | cons d ds =>
    refine ⟨d, ds, rfl, isDigit_of_mem_toDigits (n := n) (h ▸ List.mem_cons_self), ?_⟩
    rintro rfl
    by_cases hn : n = 0
    · rw [hn, Nat.toDigits_zero] at h
      exact (List.cons.inj h).2.symm
    · exact absurd (by rw [h]; rfl) (head?_toDigits hn)

theorem toLower_of_isDigit {c : Char} (h : isDigit c = true) : c.toLower = c := by
  have hd : 48 ≤ c.toNat ∧ c.toNat ≤ 57 := isDigit_iff.mp h
  rw [← Char.toNat_inj, toNat_toLower, if_neg (by omega)]

theorem map_toLower_toDigits (n : Nat) :
    (Nat.toDigits 10 n).map Char.toLower = Nat.toDigits 10 n := by
  have hlower : ∀ c ∈ Nat.toDigits 10 n, c.toLower = id c :=
    fun c hc ↦ toLower_of_isDigit (isDigit_of_mem_toDigits hc)
  rw [List.map_congr_left hlower, List.map_id]

theorem ne_of_isDigit {c d : Char} (hc : isDigit c = true) (hd : isDigit d = false) : c ≠ d := by
  rintro rfl
  rw [hc] at hd
  cases hd

theorem notMem_toDigits {c : Char} (h : isDigit c = false) (n : Nat) : c ∉ Nat.toDigits 10 n :=
  fun hm ↦ ne_of_isDigit (isDigit_of_mem_toDigits hm) h rfl

end ProxySettings.Text
