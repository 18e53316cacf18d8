import ProxySettings.Digest.Apr1
import ProxySettings.Text.Ascii

/-!
# DES passwords

The oldest scheme of password files. The password is the key of a block cipher with 64 bits, and two
characters of salt swap bits inside the cipher. A block of zeros is enciphered twenty-five times. In
the proxy `verify` of `HtpasswdEntry` compares with it.
-/

namespace ProxySettings.Digest.DesCrypt

/-- The bits at some places. -/
private def select (places : List Nat) (bits : Array Bool) : Array Bool :=
  (places.map fun i ↦ bits.getD i false).toArray

/-- The number that some bits denote, highest first. -/
private def number (bits : List Bool) : Nat := bits.foldl (fun n b ↦ 2 * n + b.toNat) 0

/-- The `n` low bits of a number, highest first. -/
private def lowBits (n v : Nat) : List Bool := (List.range n).reverse.map v.testBit

/-! ## Keys -/

/-- The bits of a key that count, as the two halves of the first round's key. -/
private def keyPlaces : List Nat := [
  56, 48, 40, 32, 24, 16, 8, 0, 57, 49, 41, 33, 25, 17, 9, 1, 58, 50, 42, 34, 26, 18, 10, 2, 59, 51,
  43, 35, 62, 54, 46, 38, 30, 22, 14, 6, 61, 53, 45, 37, 29, 21, 13, 5, 60, 52, 44, 36, 28, 20, 12,
  4, 27, 19, 11, 3]

/-- The bits of the two halves that make a round's key. -/
private def roundPlaces : List Nat := [
  13, 16, 10, 23, 0, 4, 2, 27, 14, 5, 20, 9, 22, 18, 11, 3, 25, 7, 15, 6, 26, 19, 12, 1, 40, 51, 30,
  36, 46, 54, 29, 39, 50, 44, 32, 47, 43, 48, 38, 55, 33, 52, 45, 41, 49, 35, 28, 31]

/-- How far the halves have turned at each of the sixteen rounds. -/
private def turns : List Nat := [1, 2, 4, 6, 8, 10, 12, 14, 15, 17, 19, 21, 23, 25, 27, 28]

private def turnLeft (n : Nat) (bits : List Bool) : List Bool := bits.drop n ++ bits.take n

/-- The seven low bits of each of the first eight bytes of a password, each with a zero after it. -/
private def keyBits (password : List UInt8) : Array Bool :=
  ((List.range 8).flatMap fun i ↦ lowBits 8 (2 * (password.getD i 0).toNat)).toArray

/-- The keys of the sixteen rounds. -/
private def roundKeys (password : List UInt8) : List (Array Bool) :=
  let halves := (select keyPlaces (keyBits password)).toList
  turns.map fun n ↦
    select roundPlaces (turnLeft n (halves.take 28) ++ turnLeft n (halves.drop 28)).toArray

/-! ## Rounds -/

/-- The substitutions: for each of eight groups of six bits, four rows of sixteen values. -/
private def boxTexts : List String := [
  "e4d12fb83a6c5907" ++ "0f74e2d1a6cb9538" ++ "41e8d62bfc973a50" ++ "fc8249175b3ea06d",
  "f18e6b34972dc05a" ++ "3d47f28ec01a69b5" ++ "0e7ba4d158c6932f" ++ "d8a13f42b67c05e9",
  "a09e63f51dc7b428" ++ "d709346a285ecbf1" ++ "d6498f30b12c5ae7" ++ "1ad069874fe3b52c",
  "7de3069a1285bc4f" ++ "d8b56f03472c1ae9" ++ "a690cb7df13e5284" ++ "3f06a1d8945bc72e",
  "2c417ab6853fd0e9" ++ "eb2c47d150fa3986" ++ "421bad78f9c5630e" ++ "b8c71e2d6f09a453",
  "c1af92680d34e75b" ++ "af427c9561de0b38" ++ "9ef528c3704a1db6" ++ "432c95fabe17608d",
  "4b2ef08d3c975a61" ++ "d0b7491ae35c2f86" ++ "14bdc37eaf680592" ++ "6bd814a7950fe23c",
  "d2846fb1a93e50c7" ++ "1fd8a374c56b0e92" ++ "7b419ce206adf358" ++ "21e74a8dfc90356b"]

private def boxes : List (Array Nat) :=
  boxTexts.map fun t ↦ (t.toList.map fun c ↦ (Text.hexValue? c).getD 0).toArray

/-- The value of a group of six bits: the outer bits choose the row. -/
private def substitute (box : Array Nat) (group : List Bool) : List Bool :=
  let row := number (group.take 1 ++ group.drop 5)
  lowBits 4 (box.getD (16 * row + number ((group.drop 1).take 4)) 0)

/-- The order of the bits after substitution. -/
private def mixPlaces : List Nat := [
  15, 6, 19, 20, 28, 11, 27, 16, 0, 14, 22, 25, 4, 17, 30, 9, 1, 7, 23, 13, 31, 26, 2, 8, 18, 12,
  29, 5, 21, 10, 3, 24]

/-- The thirty-two bits of a half in eight groups of six: each group shares two bits with its
neighbours. -/
private def groupPlaces : List Nat :=
  (List.range 8).flatMap fun g ↦ (List.range 6).map fun k ↦ (4 * g + k + 31) % 32

/-- The grouping with salt: where one of the twelve bits of salt is set, two bits are swapped. -/
private def saltedPlaces (salt : Nat) : List Nat :=
  (List.range 48).map fun j ↦
    groupPlaces.getD (if j % 24 < 12 && salt.testBit (j % 24) then (j + 24) % 48 else j) 0

private def groupsOf (bits : List Bool) : List (List Bool) :=
  (List.range 8).map fun g ↦ (bits.drop (6 * g)).take 6

/-- The change that a round makes, from one half and the round's key. -/
private def change (places : List Nat) (half key : Array Bool) : Array Bool :=
  let mixed := (select places half).zipWith xor key
  select mixPlaces (List.zipWith substitute boxes (groupsOf mixed.toList)).flatten.toArray

private def round (places : List Nat) (halves : Array Bool × Array Bool) (key : Array Bool) :
    Array Bool × Array Bool :=
  (halves.2, halves.1.zipWith xor (change places halves.2 key))

/-- Sixteen rounds; the halves change places at the end. -/
private def encipher (places : List Nat) (keys : List (Array Bool))
    (halves : Array Bool × Array Bool) : Array Bool × Array Bool :=
  (keys.foldl (round places) halves).swap

/-- The order of the bits of a finished block. -/
private def finalPlaces : List Nat :=
  (List.range 8).flatMap fun r ↦ [39, 7, 47, 15, 55, 23, 63, 31].map (· - r)

/-! ## Text -/

/-- The value of a character of password files. -/
private def value (c : Char) : Nat := (cryptAlphabet.findIdx? (· == c)).getD 0

/-- The text of a password with two characters of salt, which start the text. -/
def hash (password : List UInt8) (salt : Char × Char) : String :=
  let zeros : Array Bool := (List.replicate 32 false).toArray
  let places := saltedPlaces (value salt.1 + 64 * value salt.2)
  let keys := roundKeys password
  let halves := (List.range 25).foldl (fun h _ ↦ encipher places keys h) (zeros, zeros)
  let bits := (select finalPlaces (halves.1 ++ halves.2)).toList ++ [false, false]
  String.ofList <| salt.1 :: salt.2 ::
    (List.range 11).map fun i ↦ cryptChar (number ((bits.drop (6 * i)).take 6))

end ProxySettings.Digest.DesCrypt
