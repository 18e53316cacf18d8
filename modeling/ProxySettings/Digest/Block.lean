/-!
# Messages in blocks

Digests read a message in blocks of 64 bytes. The message is followed by one bit, by zeros, and by
its length in bits as a word of eight bytes.
-/

namespace ProxySettings.Digest

/-- Pieces of `n` bytes; the last one may be shorter. -/
def chunks (n : Nat) (bytes : List UInt8) : List (List UInt8) :=
  if _ : 0 < n ∧ bytes ≠ [] then bytes.take n :: chunks n (bytes.drop n) else []
termination_by bytes.length
decreasing_by
  have := List.length_pos_iff.mpr (‹0 < n ∧ bytes ≠ []›).2
  simp only [List.length_drop]
  omega

/-- The `n` low bytes of a number, lowest first. -/
def lowBytes : Nat → Nat → List UInt8
  | 0, _ => []
  | n + 1, v => UInt8.ofNat v :: lowBytes n (v / 256)

/-- The word of four bytes, first byte highest. -/
def bigWord (bytes : List UInt8) : UInt32 := bytes.foldl (fun w b ↦ w <<< 8 ||| b.toUInt32) 0

/-- The word of four bytes, first byte lowest. -/
def littleWord (bytes : List UInt8) : UInt32 := bigWord bytes.reverse

/-- The message with its filling, in which the length is written by `lengthBytes`. -/
def padded (lengthBytes : Nat → List UInt8) (message : List UInt8) : List UInt8 :=
  message ++ 0x80 :: List.replicate ((119 - message.length % 64) % 64) 0 ++
    lengthBytes (8 * message.length)

/-- Rotate a word to the left. -/
def rotateLeft (w : UInt32) (n : UInt32) : UInt32 := w <<< n ||| w >>> (32 - n)

end ProxySettings.Digest
