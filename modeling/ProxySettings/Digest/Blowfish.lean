/-!
# Blowfish

A block cipher with blocks of two words. Its tables start as the fractional part of π in base 2 ^ 32
and are then enciphered with themselves.
-/

namespace ProxySettings.Digest

/-! ## The fractional part of π -/

/-- The sum of `power / k`, `power / x² / (k + 2)`, … with alternating signs. From one over `x` and
one on, it is an arc tangent. -/
private def alternating (x power k : Nat) : Int :=
  if _ : 0 < power ∧ 1 < x * x then (power / k : Nat) - alternating x (power / (x * x)) (k + 2)
  else 0
termination_by power
decreasing_by exact Nat.div_lt_self (‹0 < power ∧ 1 < x * x›).1 (‹0 < power ∧ 1 < x * x›).2

/-- The arc tangent of one over `x`, times `unit`. -/
private def arctan (unit x : Nat) : Int := alternating x (unit / x) 1

/-- The first `n` words of the fractional part of π; 64 more bits keep the rounding away. -/
private def piWords (n : Nat) : List UInt32 :=
  let bits := 32 * n + 64
  let unit := 1 <<< bits
  let pi := (4 * (4 * arctan unit 5 - arctan unit 239)).toNat
  (List.range n).map fun i ↦ UInt32.ofNat (pi >>> (bits - 32 * (i + 1)))

/-! ## The cipher -/

/-- The tables of the cipher: one word for each of eighteen steps, and four boxes of 256 words. -/
structure Blowfish where
  steps : Array UInt32
  boxes : Array UInt32

namespace Blowfish

/-- The tables before any key. -/
def initial : Blowfish :=
  let ws := piWords 1042
  ⟨(ws.take 18).toArray, (ws.drop 18).toArray⟩

/-- The mixed word of the four bytes of a word. -/
private def feistel (boxes : Array UInt32) (w : UInt32) : UInt32 :=
  ((boxes.getD (w >>> 24).toNat 0 + boxes.getD (256 + (w >>> 16 &&& 255).toNat) 0)
    ^^^ boxes.getD (512 + (w >>> 8 &&& 255).toNat) 0)
    + boxes.getD (768 + (w &&& 255).toNat) 0

private def rounds (c : Blowfish) : (left : Nat) → UInt32 × UInt32 → UInt32 × UInt32
  | 0, block => block
  | left + 1, (l, r) =>
    let l := l ^^^ c.steps.getD (15 - left) 0
    rounds c left (r ^^^ feistel c.boxes l, l)

/-- Encipher a block. -/
def encipher (c : Blowfish) (block : UInt32 × UInt32) : UInt32 × UInt32 :=
  let (l, r) := c.rounds 16 block
  (r ^^^ c.steps.getD 17 0, l ^^^ c.steps.getD 16 0)

/-- Mix a key into the steps; its words repeat. -/
private def mixKey (c : Blowfish) (key : Array UInt32) : Blowfish :=
  { c with steps := c.steps.mapIdx fun i w ↦ w ^^^ key.getD (i % key.size) 0 }

/-- Replace the words of the steps from `i` on, two at a time, by what the last two encipher to. The
block is first mixed with two words of salt, which take turns. -/
private def refillSteps (salt : Array UInt32) : (pairs i : Nat) → UInt32 × UInt32 → Blowfish →
    (UInt32 × UInt32) × Blowfish
  | 0, _, block, c => (block, c)
  | pairs + 1, i, (l, r), c =>
    let block := c.encipher (l ^^^ salt.getD (i % 4) 0, r ^^^ salt.getD ((i + 1) % 4) 0)
    let c := { c with steps := (c.steps.setIfInBounds i block.1).setIfInBounds (i + 1) block.2 }
    refillSteps salt pairs (i + 2) block c

/-- Replace the words of the boxes in the same way. -/
private def refillBoxes (salt : Array UInt32) : (pairs i : Nat) → UInt32 × UInt32 → Blowfish →
    Blowfish
  | 0, _, _, c => c
  | pairs + 1, i, (l, r), c =>
    let block := c.encipher (l ^^^ salt.getD ((i + 2) % 4) 0, r ^^^ salt.getD ((i + 3) % 4) 0)
    let c := { c with boxes := (c.boxes.setIfInBounds i block.1).setIfInBounds (i + 1) block.2 }
    refillBoxes salt pairs (i + 2) block c

/-- Mix in a key and encipher the tables with themselves, with the four words of a salt. -/
def expand (c : Blowfish) (salt key : Array UInt32) : Blowfish :=
  let (block, c) := refillSteps salt 9 0 (0, 0) (c.mixKey key)
  refillBoxes salt 512 0 block c

end Blowfish

end ProxySettings.Digest
