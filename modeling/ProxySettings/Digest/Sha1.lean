import ProxySettings.Digest.Block

/-!
# SHA-1

The digest of 20 bytes. In the proxy `verify` of `HtpasswdEntry` compares with it.
-/

namespace ProxySettings.Digest

/-- The five words of the state. -/
private structure Sha1State where
  a : UInt32
  b : UInt32
  c : UInt32
  d : UInt32
  e : UInt32

/-- The words of a block, and `n` more: each mixes four earlier ones. -/
private def schedule : Nat → Array UInt32 → Array UInt32
  | 0, ws => ws
  | n + 1, ws =>
    let i := ws.size
    let w := ws.getD (i - 3) 0 ^^^ ws.getD (i - 8) 0 ^^^ ws.getD (i - 14) 0 ^^^ ws.getD (i - 16) 0
    schedule n (ws.push (rotateLeft w 1))

private def mix (i : Nat) (s : Sha1State) : UInt32 × UInt32 :=
  if i < 20 then ((s.b &&& s.c) ||| (~~~s.b &&& s.d), 0x5a827999)
  else if i < 40 then (s.b ^^^ s.c ^^^ s.d, 0x6ed9eba1)
  else if i < 60 then ((s.b &&& s.c) ||| (s.b &&& s.d) ||| (s.c &&& s.d), 0x8f1bbcdc)
  else (s.b ^^^ s.c ^^^ s.d, 0xca62c1d6)

private def round (ws : Array UInt32) (s : Sha1State) (i : Nat) : Sha1State :=
  let (f, k) := mix i s
  ⟨rotateLeft s.a 5 + f + s.e + k + ws.getD i 0, s.a, rotateLeft s.b 30, s.c, s.d⟩

private def absorb (s : Sha1State) (block : List UInt8) : Sha1State :=
  let ws := schedule 64 ((chunks 4 block).map bigWord).toArray
  let t := (List.range 80).foldl (round ws) s
  ⟨s.a + t.a, s.b + t.b, s.c + t.c, s.d + t.d, s.e + t.e⟩

private def bigBytes (w : UInt32) : List UInt8 := (lowBytes 4 w.toNat).reverse

/-- The SHA-1 digest of a message. -/
def sha1 (message : List UInt8) : List UInt8 :=
  let start : Sha1State := ⟨0x67452301, 0xefcdab89, 0x98badcfe, 0x10325476, 0xc3d2e1f0⟩
  let s := (chunks 64 (padded (fun n ↦ (lowBytes 8 n).reverse) message)).foldl absorb start
  [s.a, s.b, s.c, s.d, s.e].flatMap bigBytes

end ProxySettings.Digest
