import ProxySettings.Digest.Md5
import ProxySettings.Encoding.Utf8

/-!
# Salted MD5 passwords

The password scheme `apr1`: a thousand rounds of MD5 over password and salt. Digests are written
with the 64 characters of password files, lowest six bits first. In the proxy `verify` of
`HtpasswdEntry` compares with it.
-/

namespace ProxySettings.Digest

/-- The characters of password files by value. -/
def cryptAlphabet : List Char :=
  "./0123456789ABCDEFGHIJKLMNOPQRSTUVWXYZabcdefghijklmnopqrstuvwxyz".toList

/-- The character of the low six bits of a number. -/
def cryptChar (v : Nat) : Char := cryptAlphabet.getD (v % 64) '.'

/-- The `n` low groups of six bits, lowest first. -/
def cryptText : Nat → Nat → List Char
  | 0, _ => []
  | n + 1, v => cryptChar v :: cryptText n (v / 64)

/-- As many bytes as a password has, from a digest that is repeated as often as needed. -/
private def repeated (digest : List UInt8) (n : Nat) : List UInt8 :=
  ((List.replicate (n / 16 + 1) digest).flatten).take n

/-- One byte for each binary digit of the password's length, lowest first: zero for a one, and the
password's first byte for a zero. -/
private def lengthMarks (first : UInt8) (n : Nat) : List UInt8 :=
  if n = 0 then [] else (if n % 2 = 1 then 0 else first) :: lengthMarks first (n / 2)
termination_by n

private def stretch (password salt : List UInt8) (digest : List UInt8) (i : Nat) : List UInt8 :=
  md5 <|
    (if i % 2 = 1 then password else digest) ++
    (if i % 3 = 0 then [] else salt) ++
    (if i % 7 = 0 then [] else password) ++
    (if i % 2 = 1 then digest else password)

/-- Three bytes of a digest as one number. -/
private def triple (digest : List UInt8) (i j k : Nat) : Nat :=
  ((digest.getD i 0).toNat * 256 + (digest.getD j 0).toNat) * 256 + (digest.getD k 0).toNat

/-- The text of a password's digest with a salt. -/
def apr1 (password salt : List UInt8) : String :=
  let mixed := md5 (password ++ salt ++ password)
  let start := md5 <|
    password ++ Utf8.encode "$apr1$" ++ salt ++ repeated mixed password.length ++
      lengthMarks (password.head?.getD 0) password.length
  let digest := (List.range 1000).foldl (stretch password salt) start
  String.ofList <|
    cryptText 4 (triple digest 0 6 12) ++ cryptText 4 (triple digest 1 7 13) ++
    cryptText 4 (triple digest 2 8 14) ++ cryptText 4 (triple digest 3 9 15) ++
    cryptText 4 (triple digest 4 10 5) ++ cryptText 2 (digest.getD 11 0).toNat

end ProxySettings.Digest
