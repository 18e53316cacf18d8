import Mathlib.Algebra.Group.Nat.Defs
import Mathlib.Data.List.Induction
import ProxySettings.Digest.Bcrypt
import ProxySettings.Proofs.Splitting

/-!
# Written bcrypt hashes

A bcrypt hash is written with the name of its scheme, its cost in two digits, and its salt and its
digest in characters of six bits. Reading a written hash gives its parts back, under whatever name
it is written.
-/

namespace ProxySettings.Digest

/-! ## Characters of six bits -/

/-- The low `k` digits to the base 64 of a number, highest first. -/
def bcryptDigits : Nat → Nat → List Char
  | 0, _ => []
  | k + 1, n => bcryptDigits k (n / 64) ++ [bcryptAlphabet.getD (n % 64) '.']

/-- The number that some bytes denote, highest first. -/
def bytesNumber (bytes : List UInt8) : Nat := bytes.foldl (fun n b ↦ 256 * n + b.toNat) 0

/-- The characters of some bytes; zero bits fill the last one. -/
def bcryptChars (bytes : List UInt8) : List Char :=
  let count := (8 * bytes.length + 5) / 6
  bcryptDigits count (bytesNumber bytes * 2 ^ (6 * count - 8 * bytes.length))

theorem length_bcryptDigits (k n : Nat) : (bcryptDigits k n).length = k := by
  induction k generalizing n with
  | zero => rfl
  | succ k ih => rw [bcryptDigits, List.length_append, ih, List.length_singleton]

theorem length_bcryptChars (bytes : List UInt8) :
    (bcryptChars bytes).length = (8 * bytes.length + 5) / 6 :=
  length_bcryptDigits _ _

/-- The place of a character in the alphabet is its value. -/
theorem findIdx?_bcryptAlphabet : ∀ v < 64,
    bcryptAlphabet.findIdx? (· == bcryptAlphabet.getD v '.') = some v := by
  decide +kernel

theorem mem_bcryptAlphabet_of_mem_digits {k n : Nat} {c : Char} (h : c ∈ bcryptDigits k n) :
    c ∈ bcryptAlphabet := by
  induction k generalizing n with
  | zero => exact absurd h List.not_mem_nil
  | succ k ih =>
    rw [bcryptDigits, List.mem_append, List.mem_singleton] at h
    rcases h with h | rfl
    · exact ih h
    · have hl : n % 64 < bcryptAlphabet.length := Nat.mod_lt n (by decide)
      rw [List.getD_eq_getElem?_getD, List.getElem?_eq_getElem hl, Option.getD_some]
      exact List.getElem_mem hl

/-- Reading the digits of a number after those of another one. -/
theorem foldlM_bcryptDigits (k n m : Nat) : (bcryptDigits k n).foldlM
    (fun n c ↦ (bcryptAlphabet.findIdx? (· == c)).map (64 * n + ·)) m =
      some (64 ^ k * m + n % 64 ^ k) := by
  induction k generalizing n with
  | zero => simp [bcryptDigits, Nat.mod_one]
  | succ k ih =>
    rw [bcryptDigits, List.foldlM_append, ih]
    simp only [bind, Option.bind, List.foldlM_cons, List.foldlM_nil,
      findIdx?_bcryptAlphabet _ (Nat.mod_lt n (by decide : 64 > 0)), Option.map_some]
    congr 1
    rw [Nat.pow_succ', Nat.mod_mul, Nat.mul_assoc]
    omega

theorem bytesNumber_append (bytes : List UInt8) (b : UInt8) :
    bytesNumber (bytes ++ [b]) = 256 * bytesNumber bytes + b.toNat := by
  rw [bytesNumber, List.foldl_append]
  rfl

theorem bytesNumber_lt (bytes : List UInt8) : bytesNumber bytes < 256 ^ bytes.length := by
  induction bytes using List.reverseRecOn with
  | nil => decide
  | append_singleton bytes b ih =>
    have hb := b.toNat_lt
    rw [bytesNumber_append, List.length_append, List.length_singleton, Nat.pow_succ']
    omega

/-- The bytes of the number that bytes denote are the bytes. -/
theorem reverse_lowBytes_bytesNumber (bytes : List UInt8) :
    (lowBytes bytes.length (bytesNumber bytes)).reverse = bytes := by
  induction bytes using List.reverseRecOn with
  | nil => rfl
  | append_singleton bytes b ih =>
    have hb := b.toNat_lt
    have hlow : UInt8.ofNat (256 * bytesNumber bytes + b.toNat) = b := by
      rw [← UInt8.toNat_inj, UInt8.toNat_ofNat']
      omega
    have hhigh : (256 * bytesNumber bytes + b.toNat) / 256 = bytesNumber bytes := by
      omega
    rw [bytesNumber_append, List.length_append, List.length_singleton, lowBytes, hlow, hhigh,
      List.reverse_cons, ih]

/-- Reading the characters of bytes gives the bytes back. -/
theorem bcryptBytes?_bcryptChars (bytes : List UInt8) :
    bcryptBytes? (bcryptChars bytes) = some bytes := by
  have hlt := bytesNumber_lt bytes
  obtain ⟨count, hcount⟩ : ∃ count, count = (8 * bytes.length + 5) / 6 := ⟨_, rfl⟩
  obtain ⟨spare, hspare⟩ : ∃ spare, 6 * count = 8 * bytes.length + spare ∧ spare < 6 :=
    ⟨6 * count - 8 * bytes.length, by omega⟩
  have hpow : 256 ^ bytes.length * 2 ^ spare = 64 ^ count := by
    rw [show 256 = 2 ^ 8 from rfl, show 64 = 2 ^ 6 from rfl, ← Nat.pow_mul, ← Nat.pow_mul,
      ← Nat.pow_add, hspare.1]
  have hnumber : bytesNumber bytes * 2 ^ spare < 64 ^ count := by
    rw [← hpow]
    exact Nat.mul_lt_mul_of_pos_right hlt (Nat.two_pow_pos spare)
  have hchars : bcryptChars bytes = bcryptDigits count (bytesNumber bytes * 2 ^ spare) := by
    rw [bcryptChars, ← hcount, hspare.1, Nat.add_sub_cancel_left]
  have hmod : 6 * count % 8 = spare := by omega
  have hdiv : 6 * count / 8 = bytes.length := by omega
  rw [bcryptBytes?, hchars, foldlM_bcryptDigits, length_bcryptDigits, hmod, hdiv, Nat.mul_zero,
    Nat.zero_add, Nat.mod_eq_of_lt hnumber]
  simp only [bind, Option.bind, Nat.one_shiftLeft, Nat.mul_mod_left, ↓reduceIte,
    Nat.mul_div_cancel _ (Nat.two_pow_pos spare), reverse_lowBytes_bytesNumber]

/-! ## Hashes -/

namespace BcryptHash

/-- The parts of a hash have the sizes that are written. -/
structure IsProper (h : BcryptHash) : Prop where
  cost : 4 ≤ h.cost ∧ h.cost ≤ 31
  salt : h.salt.length = 16
  digest : h.digest.length = 23

/-- A cost in two digits. -/
def costChars (cost : Nat) : List Char := [Nat.digitChar (cost / 10), Nat.digitChar (cost % 10)]

/-- The text of a hash under a name of the scheme. -/
def text (name : String) (h : BcryptHash) : String :=
  "$" ++ name ++ "$" ++ String.ofList (costChars h.cost) ++ "$" ++
    String.ofList (bcryptChars h.salt ++ bcryptChars h.digest)

/-- The hash of a password. -/
def ofPassword (cost : Nat) (salt password : List UInt8) : BcryptHash :=
  ⟨cost, salt, bcrypt cost salt password⟩

theorem isProper_ofPassword {cost : Nat} {salt : List UInt8} (hc : 4 ≤ cost ∧ cost ≤ 31)
    (hs : salt.length = 16) (password : List UInt8) : (ofPassword cost salt password).IsProper := by
  refine ⟨hc, hs, ?_⟩
  rw [ofPassword, length_bcrypt]

theorem cost?_costChars : ∀ cost < 32, 4 ≤ cost → cost? (costChars cost) = some cost := by
  decide +kernel

/-- The parts of a written hash stand between dollar signs. -/
theorem splitOnAll_text {name : String} (hn : '$' ∉ name.toList) (h : BcryptHash)
    (hc : h.cost ≤ 31) : Text.splitOnAll (· == '$') (h.text name).toList =
      [[], name.toList, costChars h.cost, bcryptChars h.salt ++ bcryptChars h.digest] := by
  have hcost : ∀ cost < 32, '$' ∉ costChars cost := by decide
  have halphabet : '$' ∉ bcryptAlphabet := by decide
  have hbytes (bytes : List UInt8) : '$' ∉ bcryptChars bytes :=
    fun hm ↦ halphabet (mem_bcryptAlphabet_of_mem_digits hm)
  have hbody : '$' ∉ bcryptChars h.salt ++ bcryptChars h.digest := by
    rw [List.mem_append]
    exact not_or.mpr ⟨hbytes _, hbytes _⟩
  have hpart {cs : List Char} (hc : '$' ∉ cs) : Text.splitOnAll (· == '$') cs = [cs] :=
    Text.splitOnAll_eq_singleton fun c hm ↦ beq_eq_false_iff_ne.mpr fun he ↦ hc (he ▸ hm)
  have hcut (before after : List Char) : Text.splitOnAll (· == '$') (before ++ '$' :: after) =
      Text.splitOnAll (· == '$') before ++ Text.splitOnAll (· == '$') after :=
    Text.splitOnAll_append_cons (p := (· == '$')) (beq_self_eq_true '$') before after
  have htext : (h.text name).toList = [] ++ '$' :: (name.toList ++ '$' ::
      (costChars h.cost ++ '$' :: (bcryptChars h.salt ++ bcryptChars h.digest))) := by
    have hd : "$".toList = ['$'] := rfl
    simp only [text, String.toList_append, String.toList_ofList, hd, List.append_assoc,
      List.cons_append, List.nil_append]
  rw [htext, hcut, hcut, hcut, hpart hn, hpart (hcost _ (Nat.lt_succ_of_le hc)), hpart hbody]
  rfl

/-- Reading a written hash gives its parts back. -/
theorem parse?_text {name : String} (hn : '$' ∉ name.toList) (hne : name ≠ "") {h : BcryptHash}
    (hp : h.IsProper) : parse? (h.text name) = some h := by
  have hsalt : (bcryptChars h.salt).length = 22 := by rw [length_bcryptChars, hp.salt]
  have hdigest : (bcryptChars h.digest).length = 31 := by rw [length_bcryptChars, hp.digest]
  have hbody : (bcryptChars h.salt ++ bcryptChars h.digest).length = 53 := by
    rw [List.length_append, hsalt, hdigest]
  have hname : name.toList.isEmpty = false := by
    rw [List.isEmpty_eq_false_iff, ne_eq, String.toList_eq_nil_iff]
    exact hne
  have hnil : (bcryptChars h.salt ++ bcryptChars h.digest).isEmpty = false := by
    rw [List.isEmpty_eq_false_iff, ← List.length_pos_iff, hbody]
    decide
  have hparts : (Text.splitOnAll (· == '$') (h.text name).toList).filter
      (fun part ↦ !part.isEmpty) =
        [name.toList, costChars h.cost, bcryptChars h.salt ++ bcryptChars h.digest] := by
    rw [splitOnAll_text hn h hp.cost.2]
    simp only [List.filter_cons, List.filter_nil, List.isEmpty_nil, hname, hnil, costChars,
      List.isEmpty_cons, Bool.not_true, Bool.not_false, Bool.false_eq_true, ↓reduceIte]
  rw [parse?, hparts]
  simp only [hbody, ne_eq, not_true_eq_false, ↓reduceIte, bind, Option.bind,
    List.take_left' hsalt, List.drop_left' hsalt, bcryptBytes?_bcryptChars,
    cost?_costChars _ (Nat.lt_succ_of_le hp.cost.2) hp.cost.1]
  rfl

end BcryptHash

end ProxySettings.Digest
