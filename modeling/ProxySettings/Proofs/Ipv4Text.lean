import ProxySettings.Proofs.DomainName
import ProxySettings.Url.Ipv4

/-!
# IPv4 addresses are read as they are written

However an address was written, it has four bytes. They are written as four decimal numbers, which
are a host name that is read as the address.
-/

namespace ProxySettings.Url

/-! ## Bytes -/

theorem foldl_bytes_lt {bytes : List Nat} (h : ∀ b ∈ bytes, b < 256) (v : Nat) :
    bytes.foldl (fun v n ↦ v * 256 + n) v < (v + 1) * 256 ^ bytes.length := by
  induction bytes generalizing v with
  | nil => simp
  | cons b bytes ih =>
    obtain ⟨hb, hrest⟩ := List.forall_mem_cons.mp h
    exact Nat.lt_of_lt_of_le (ih hrest _) (Text.add_one_mul_pow_le hb bytes.length)

/-- An address that is read has four bytes. -/
theorem lt_of_combine {last address : Nat} {before : List Nat}
    (h : combine last before = some address) : address < 2 ^ 32 := by
  rw [combine] at h
  split at h
  · next hc =>
    obtain ⟨hlength, hlast, hbefore⟩ := hc
    obtain rfl := Option.some.inj h
    have hlt : ∀ b ∈ before, b < 256 :=
      fun b hb ↦ of_decide_eq_true (List.all_eq_true.mp hbefore b hb)
    have hbytes := foldl_bytes_lt hlt 0
    rw [Nat.zero_add, Nat.one_mul] at hbytes
    rw [Nat.shiftLeft_eq, Nat.one_mul] at hlast
    rw [Nat.shiftLeft_eq]
    have hpow : 256 ^ before.length * 2 ^ (8 * (4 - before.length)) = 2 ^ 32 := by
      rw [show 256 = 2 ^ 8 from rfl, ← Nat.pow_mul, ← Nat.pow_add]
      exact congrArg (2 ^ ·) (by omega)
    have hmul := Nat.mul_le_mul_right (2 ^ (8 * (4 - before.length))) hbytes
    rw [Nat.succ_mul, hpow] at hmul
    omega
  · cases h

/-! ## The written address -/

/-- The four bytes of an address, highest first. -/
def bytesOf (address : Nat) : List Nat := [3, 2, 1, 0].map fun i ↦ (address >>> (8 * i)) % 256

theorem toList_ipv4Text (address : Nat) : (ipv4Text address).toList =
    ['.'].intercalate ((bytesOf address).map (Nat.toDigits 10)) := by
  simp only [ipv4Text, bytesOf, String.toList_append, Text.toList_toString_nat, List.map_cons,
    List.map_nil, List.intercalate_cons_cons, List.intercalate_singleton, List.append_assoc]
  rfl

/-- A written number is read in no other way than in decimal. -/
theorem number?_toDigits (n : Nat) : number? (Nat.toDigits 10 n) = some n := by
  have hn := Text.number?_toDigits n
  obtain ⟨d, ds, he, -, hzero⟩ := Text.exists_toDigits n
  rw [he] at hn ⊢
  rw [number?]
  · exact hn
  · exact nofun
  · intro x digits h
    obtain ⟨rfl, h⟩ := List.cons.inj h
    rw [hzero rfl] at h
    cases h

theorem isDigit_of_mem_written {bytes : List Nat} :
    ∀ part ∈ bytes.map (Nat.toDigits 10), ∀ c ∈ part, Text.isDigit c = true := by
  rw [List.forall_mem_map]
  exact fun n _ c hc ↦ Text.isDigit_of_mem_toDigits hc

theorem parts_ipv4Text (address : Nat) : parts (ipv4Text address).toList =
    (bytesOf address).map (Nat.toDigits 10) := by
  have hdot : ∀ part ∈ (bytesOf address).map (Nat.toDigits 10), '.' ∉ part :=
    fun part hp hm ↦ absurd (isDigit_of_mem_written part hp '.' hm) (by decide)
  rw [parts, toList_ipv4Text, Text.splitOnAll_intercalate hdot (by simp [bytesOf])]

/-- The written address ends in a number, as hosts that are addresses do. -/
theorem endsInNumber_ipv4Text (address : Nat) : endsInNumber (ipv4Text address).toList = true := by
  have hall : (Nat.toDigits 10 (address % 256)).all Text.isDigit = true :=
    List.all_eq_true.mpr fun c hc ↦ Text.isDigit_of_mem_toDigits hc
  obtain ⟨d, ds, he, -, -⟩ := Text.exists_toDigits (address % 256)
  have hparts : (parts (ipv4Text address).toList).reverse =
      (d :: ds) :: ([1, 2, 3].map fun i ↦ (address >>> (8 * i)) % 256).map (Nat.toDigits 10) := by
    rw [parts_ipv4Text, ← he]
    rfl
  rw [he] at hall
  simp only [endsInNumber, hparts, hall, List.isEmpty_cons, Bool.not_false, Bool.and_true,
    Bool.true_or]

theorem toList_ipv4Text_ne_nil (address : Nat) : (ipv4Text address).toList ≠ [] := by
  intro he
  have hend := endsInNumber_ipv4Text address
  rw [he] at hend
  cases hend

/-- The bytes of an address make the address. -/
theorem combine_bytesOf {address : Nat} (h : address < 2 ^ 32) :
    combine (address % 256) ([3, 2, 1].map fun i ↦ (address >>> (8 * i)) % 256) =
      some address := by
  have hbyte (n : Nat) : n % 256 < 256 := Nat.mod_lt n (by decide)
  have hcond : address % 256 < 1 <<< 8 := hbyte address
  simp only [combine, List.map_cons, List.map_nil, List.length_cons, List.length_nil, List.all_cons,
    List.all_nil, hbyte, decide_true, Bool.and_true, and_true, List.foldl_cons, List.foldl_nil]
  rw [if_pos ⟨by decide, hcond⟩, Option.some.injEq]
  simp only [Nat.shiftLeft_eq, Nat.shiftRight_eq_div_pow]
  omega

/-- A written address is read back. -/
theorem ipv4?_ipv4Text {address : Nat} (h : address < 2 ^ 32) :
    ipv4? (ipv4Text address).toList = some address := by
  have hlast : ((bytesOf address).map (Nat.toDigits 10)).getLast? ≠ some [] := by
    intro hl
    exact Nat.toDigits_ne_nil (Option.some.inj hl)
  have hnumbers : ((bytesOf address).map (Nat.toDigits 10)).mapM number? = some (bytesOf address) :=
    mapM_map_eq_some fun n _ ↦ number?_toDigits n
  simp only [ipv4?, parts_ipv4Text, if_neg hlast, hnumbers, Option.map_some]
  exact combine_bytesOf h

/-- A written address is a host name. -/
theorem toAscii?_ipv4Text (address : Nat) :
    Idna.toAscii? (ipv4Text address).toList = some (ipv4Text address).toList := by
  rw [toList_ipv4Text]
  exact Idna.toAscii?_of_decimal (by simp [bytesOf]) isDigit_of_mem_written

/-- An address that is read has four bytes. -/
theorem lt_of_ipv4? {name : List Char} {address : Nat} (h : ipv4? name = some address) :
    address < 2 ^ 32 := by
  rw [ipv4?] at h
  split at h
  · exact lt_of_combine h
  · cases h

end ProxySettings.Url
