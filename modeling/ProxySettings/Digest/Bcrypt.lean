import ProxySettings.Digest.Block
import ProxySettings.Digest.Blowfish
import ProxySettings.Encoding.Utf8
import ProxySettings.Text.Ascii
import ProxySettings.Text.Blank

/-!
# Bcrypt passwords

A password scheme with a cost: the tables of the cipher Blowfish are mixed with password and salt,
two to the power of the cost times. The hash is three enciphered blocks, written without their last
byte. In the proxy `verify` of `HtpasswdEntry` compares with it.
-/

namespace ProxySettings.Digest

/-- The eighteen words of a repeated key. -/
private def cycledWords (bytes : List UInt8) : Array UInt32 :=
  let key := bytes.toArray
  ((List.range 18).map fun i ↦
    bigWord ((List.range 4).map fun j ↦ key.getD ((4 * i + j) % key.size) 0)).toArray

/-- The words of the text that is enciphered. -/
private def magicWords : List UInt32 :=
  (chunks 4 (Utf8.encode "OrpheanBeholderScryDoubt")).map bigWord

/-- Encipher a list of words, two at a time. -/
private def encipherAll (c : Blowfish) : List UInt32 → List UInt32
  | l :: r :: rest =>
    let (l, r) := c.encipher (l, r)
    l :: r :: encipherAll c rest
  | ws => ws

private def bigWordBytes (w : UInt32) : List UInt8 := (lowBytes 4 w.toNat).reverse

private def rekey (salt key : Array UInt32) : Nat → Blowfish → Blowfish
  | 0, c => c
  | n + 1, c => rekey salt key n ((c.expand #[0, 0, 0, 0] key).expand #[0, 0, 0, 0] salt)

/-- The digest of a password. A zero byte ends the password, and 72 bytes count. -/
def bcrypt (cost : Nat) (salt password : List UInt8) : List UInt8 :=
  let key := cycledWords ((password ++ [0]).take 72)
  let saltWords := cycledWords salt
  let start := Blowfish.initial.expand (saltWords.take 4) key
  let c := rekey saltWords key (1 <<< cost) start
  (((List.range 64).foldl (fun ws _ ↦ encipherAll c ws) magicWords).flatMap bigWordBytes).take 23

private theorem length_encipherAll (c : Blowfish) (ws : List UInt32) :
    (encipherAll c ws).length = ws.length := by
  fun_induction encipherAll c ws with
  | case1 l r rest l' r' h ih => rw [List.length_cons, List.length_cons, ih]; rfl
  | case2 ws h => rfl

private theorem length_magicWords : magicWords.length = 6 := by
  decide +kernel

/-- A digest is three blocks without their last byte. -/
theorem length_bcrypt (cost : Nat) (salt password : List UInt8) :
    (bcrypt cost salt password).length = 23 := by
  have hfold (c : Blowfish) (ns : List Nat) (ws : List UInt32) :
      (ns.foldl (fun ws _ ↦ encipherAll c ws) ws).length = ws.length := by
    induction ns generalizing ws with
    | nil => rfl
    | cons n ns ih => rw [List.foldl_cons, ih, length_encipherAll]
  have hbytes (ws : List UInt32) : (ws.flatMap bigWordBytes).length = 4 * ws.length := by
    induction ws with
    | nil => rfl
    | cons w ws ih =>
      rw [List.flatMap_cons, List.length_append, ih, List.length_cons]
      simp only [bigWordBytes, lowBytes, List.length_reverse, List.length_cons, List.length_nil]
      omega
  rw [bcrypt, List.length_take, hbytes, hfold, length_magicWords]
  rfl

/-- The characters of hashes by value. -/
def bcryptAlphabet : List Char :=
  "./ABCDEFGHIJKLMNOPQRSTUVWXYZabcdefghijklmnopqrstuvwxyz0123456789".toList

/-- The bytes that some characters denote, six bits each; bits that fill no byte have to be zero. -/
def bcryptBytes? (cs : List Char) : Option (List UInt8) := do
  let n ← cs.foldlM (fun n c ↦ (bcryptAlphabet.findIdx? (· == c)).map (64 * n + ·)) 0
  let spare := 1 <<< (6 * cs.length % 8)
  if n % spare = 0 then some (lowBytes (6 * cs.length / 8) (n / spare)).reverse else none

/-- The parts of a hash. -/
structure BcryptHash where
  cost : Nat
  salt : List UInt8
  digest : List UInt8
  deriving Repr, DecidableEq

namespace BcryptHash

/-- The cost that a number denotes. -/
def cost? (cs : List Char) : Option Nat :=
  (Text.number? 10 (if cs.head? = some '+' then cs.drop 1 else cs)).filter fun n ↦ 4 ≤ n ∧ n ≤ 31

/-- Read a hash: the scheme, the cost, and 22 characters of salt with 31 characters of digest, each
after a dollar sign. -/
def parse? (text : String) : Option BcryptHash :=
  match (Text.splitOnAll (· == '$') text.toList).filter (fun part ↦ !part.isEmpty) with
  | [_, cost, body] => do
    if body.length ≠ 53 then none
    return ⟨← cost? cost, ← bcryptBytes? (body.take 22), ← bcryptBytes? (body.drop 22)⟩
  | _ => none

/-- The hash is that of a password. -/
def verify (h : BcryptHash) (password : List UInt8) : Bool :=
  bcrypt h.cost h.salt password == h.digest

end BcryptHash

end ProxySettings.Digest
