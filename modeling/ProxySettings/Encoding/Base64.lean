/-!
# Base64

Three bytes are written as four symbols of six bits, and a shorter last group is filled with `=`.
Decoding is strict: it accepts exactly what encoding writes, and names the first fault of any other
text. In the proxy `parse_basic_auth` and `detect` decode it.
-/

namespace ProxySettings.Base64

/-- The byte of `=`, which fills the last group. -/
def padByte : UInt8 := 61

/-- The value of a symbol. -/
def value? (b : UInt8) : Option Nat :=
  if 65 ≤ b ∧ b ≤ 90 then some (b.toNat - 65)
  else if 97 ≤ b ∧ b ≤ 122 then some (b.toNat - 71)
  else if 48 ≤ b ∧ b ≤ 57 then some (b.toNat + 4)
  else if b = 43 then some 62
  else if b = 47 then some 63
  else none

/-- The symbol of a value below 64. -/
def symbol (v : Nat) : UInt8 :=
  if v < 26 then UInt8.ofNat (v + 65)
  else if v < 52 then UInt8.ofNat (v + 71)
  else if v < 62 then UInt8.ofNat (v - 4)
  else if v = 62 then 43
  else 47

/-- The bytes of a list of values; bits that fill no byte are dropped. -/
def bytesOf : List Nat → List UInt8
  | a :: b :: c :: d :: rest =>
    UInt8.ofNat (a * 4 + b / 16) :: UInt8.ofNat (b * 16 + c / 4) :: UInt8.ofNat (c * 64 + d) ::
      bytesOf rest
  | [a, b, c] => [UInt8.ofNat (a * 4 + b / 16), UInt8.ofNat (b * 16 + c / 4)]
  | [a, b] => [UInt8.ofNat (a * 4 + b / 16)]
  | _ => []

/-- The symbols of a list of bytes, with filling. -/
def encode : List UInt8 → List UInt8
  | x :: y :: z :: rest =>
    symbol (x.toNat / 4) :: symbol (x.toNat % 4 * 16 + y.toNat / 16) ::
      symbol (y.toNat % 16 * 4 + z.toNat / 64) :: symbol (z.toNat % 64) :: encode rest
  | [x, y] =>
    [symbol (x.toNat / 4), symbol (x.toNat % 4 * 16 + y.toNat / 16), symbol (y.toNat % 16 * 4),
      padByte]
  | [x] => [symbol (x.toNat / 4), symbol (x.toNat % 4 * 16), padByte, padByte]
  | [] => []

/-- Why a text is not base64, with the place of the fault where it has one. -/
inductive Fault where
  | invalidByte (offset : Nat) (byte : UInt8)
  | invalidLength
  | invalidLastSymbol (offset : Nat) (byte : UInt8)
  | invalidPadding
  deriving Repr, DecidableEq

/-- The text of a fault. -/
def Fault.message : Fault → String
  | invalidByte offset byte => s!"Invalid byte {byte.toNat}, offset {offset}."
  | invalidLength => "Encoded text cannot have a 6-bit remainder."
  | invalidLastSymbol offset byte => s!"Invalid last symbol {byte.toNat}, offset {offset}."
  | invalidPadding => "Invalid padding"

/-- The values of the symbols from an offset on. Filling may start at the third symbol of a group
and goes on to the end; `filled` is the place where it started. -/
def values (offset : Nat) (filled : Option Nat) : List UInt8 → Except Fault (List Nat)
  | [] => .ok []
  | b :: rest =>
    if b = padByte then
      if offset % 4 < 2 then .error (.invalidByte (filled.getD offset) padByte)
      else values (offset + 1) (some (filled.getD offset)) rest
    else
      match filled with
      | some start => .error (.invalidByte start padByte)
      | none =>
        match value? b with
        | none => .error (.invalidByte offset b)
        | some v => (values (offset + 1) none rest).map (v :: ·)

/-- The bits of the last symbol that fill no byte. -/
def spareBits (vs : List Nat) : Nat :=
  match vs.length % 4 with
  | 2 => vs.getLast?.getD 0 % 16
  | 3 => vs.getLast?.getD 0 % 4
  | _ => 0

/-- Decode a text, given as its bytes. -/
def decode (text : List UInt8) : Except Fault (List UInt8) :=
  let lastByte := text.getLast?.getD 0
  if text.length % 4 = 1 then
    if lastByte ≠ padByte ∧ value? lastByte = none then
      .error (.invalidByte (text.length - 1) lastByte)
    else .error .invalidLength
  else
    match values 0 none text with
    | .error fault => .error fault
    | .ok vs =>
      if text.length % 4 ≠ 0 then .error .invalidPadding
      else if spareBits vs ≠ 0 then
        .error (.invalidLastSymbol (vs.length - 1) (symbol (vs.getLast?.getD 0)))
      else .ok (bytesOf vs)

end ProxySettings.Base64
