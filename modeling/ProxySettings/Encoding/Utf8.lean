/-!
# UTF-8

Texts to bytes and back. Reading is strict, or replaces every ill-formed part by the replacement
character: a part is a longest beginning of a well-formed sequence, or else one byte.
-/

namespace ProxySettings.Utf8

/-- The bytes of a text. -/
def encode (s : String) : List UInt8 := s.toUTF8.data.toList

/-- The text of well-formed bytes. -/
def decode? (bytes : List UInt8) : Option String := String.fromUTF8? ⟨bytes.toArray⟩

theorem decode?_encode (s : String) : decode? (encode s) = some s := by
  have h : (⟨(encode s).toArray⟩ : ByteArray) = s.toUTF8 := by simp [encode]
  rw [decode?, h, String.fromUTF8?, dif_pos (show s.toUTF8.IsValidUTF8 from s.isValidUTF8)]
  rfl

/-- The character that stands for an ill-formed part. -/
def replacement : Char := '\ufffd'

private def isTail (b : UInt8) : Bool := 0x80 ≤ b && b ≤ 0xbf

/-- The bytes that may follow the first byte of a sequence of three or four. -/
private def isSecond (first second : UInt8) : Bool :=
  if first = 0xe0 then 0xa0 ≤ second && second ≤ 0xbf
  else if first = 0xed then 0x80 ≤ second && second ≤ 0x9f
  else if first = 0xf0 then 0x90 ≤ second && second ≤ 0xbf
  else if first = 0xf4 then 0x80 ≤ second && second ≤ 0x8f
  else isTail second

private def join (first : Nat) (tails : List UInt8) : Char :=
  Char.ofNat (tails.foldl (fun n b ↦ n * 64 + b.toNat % 64) first)

/-- Read bytes of any kind. -/
def decodeLossy : List UInt8 → List Char
  | [] => []
  | a :: rest =>
    if a < 0x80 then Char.ofNat a.toNat :: decodeLossy rest
    else if 0xc2 ≤ a && a ≤ 0xdf then
      match rest with
      | b :: rest =>
        if isTail b then join (a.toNat % 32) [b] :: decodeLossy rest
        else replacement :: decodeLossy (b :: rest)
      | [] => [replacement]
    else if 0xe0 ≤ a && a ≤ 0xef then
      match rest with
      | b :: rest =>
        if isSecond a b then
          match rest with
          | c :: rest =>
            if isTail c then join (a.toNat % 16) [b, c] :: decodeLossy rest
            else replacement :: decodeLossy (c :: rest)
          | [] => [replacement]
        else replacement :: decodeLossy (b :: rest)
      | [] => [replacement]
    else if 0xf0 ≤ a && a ≤ 0xf4 then
      match rest with
      | b :: rest =>
        if isSecond a b then
          match rest with
          | c :: rest =>
            if isTail c then
              match rest with
              | d :: rest =>
                if isTail d then join (a.toNat % 8) [b, c, d] :: decodeLossy rest
                else replacement :: decodeLossy (d :: rest)
              | [] => [replacement]
            else replacement :: decodeLossy (c :: rest)
          | [] => [replacement]
        else replacement :: decodeLossy (b :: rest)
      | [] => [replacement]
    else replacement :: decodeLossy rest

end ProxySettings.Utf8
