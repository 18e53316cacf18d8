import ProxySettings.Digest.Apr1
import ProxySettings.Digest.Bcrypt
import ProxySettings.Digest.DesCrypt
import ProxySettings.Digest.Sha1
import ProxySettings.Encoding.Base64
import ProxySettings.Error

/-!
# Hashed passwords

The forms in which a file of credentials holds passwords. A form is told from the beginning of the
hash, and a hash is compared with what its own form makes of a password. In the proxy these are
`detect` of `HtpasswdScheme` and `verify` of `HtpasswdEntry`.
-/

namespace ProxySettings

/-- The answer to a password. A hash that cannot be used gives no answer: the check breaks down. -/
inductive Verdict where
  | accepted
  | rejected
  | broken
  deriving Repr, DecidableEq

/-- The answer that a test gives. -/
def Verdict.ofBool (isAccepted : Bool) : Verdict := if isAccepted then accepted else rejected

/-- The forms of passwords in a file (`HtpasswdScheme`). -/
inductive HashScheme where
  | apr1
  | bcrypt
  | sha1
  | crypt
  | plain
  deriving Repr, DecidableEq

namespace PasswordHash

/-- What is left after a beginning. -/
def after? (start hash : String) : Option String :=
  if start.toList.isPrefixOf hash.toList then some (String.ofList (hash.toList.drop start.length))
  else none

/-- The beginning of a SHA-1 hash. -/
def shaMark : String := "\x7bSHA\x7d"

/-- The beginning of a salted MD5 hash. -/
def apr1Mark : String := "$apr1$"

/-- The beginning of a bcrypt hash. -/
def bcryptMark : String := "$2y$"

/-! ## Detection -/

/-- A hash in the form of the first scheme of password files: thirteen characters of its alphabet.
-/
def isCrypt (hash : String) : Bool :=
  hash.utf8ByteSize == 13 && hash.toList.all fun c ↦ Text.isAlphanumeric c || c == '.' || c == '/'

/-- The scheme of a hash. A text that looks like no hash is the password itself (`detect`). -/
def scheme (hash : String) : Except HashFault HashScheme :=
  match after? shaMark hash with
  | some text =>
    match Base64.decode (Utf8.encode text) with
    | .error fault => .error (.shaDigest fault)
    | .ok digest => if digest.length = 20 then .ok .sha1 else .error .shaLength
  | none =>
    match hash.toList with
    | '$' :: rest =>
      let name := String.ofList (rest.takeWhile (· ≠ '$'))
      if name = "apr1" then .ok .apr1
      else if name = "2a" ∨ name = "2b" ∨ name = "2y" then .ok .bcrypt
      else .error (.unsupported name)
    | _ => .ok (if isCrypt hash then .crypt else .plain)

/-! ## Verification -/

/-- The parts of a text around a byte offset, if the offset is not inside a character. -/
def splitAtByte? (text : String) (offset : Nat) : Option (String × String) :=
  let bytes := Utf8.encode text
  if bytes.length < offset then none
  else do return (← Utf8.decode? (bytes.take offset), ← Utf8.decode? (bytes.drop offset))

/-- Compare with a salted MD5 hash: eight bytes of salt, one byte, and the digest. -/
def checkApr1 (hash password : String) : Verdict :=
  match splitAtByte? hash 14, splitAtByte? hash 15 with
  | some (marked, _), some (_, digest) =>
    let salt := (Utf8.encode marked).drop apr1Mark.length
    .ofBool (Digest.apr1 (Utf8.encode password) salt == digest)
  | _, _ => .broken

/-- Compare with a bcrypt hash. -/
def checkBcrypt (hash password : String) : Verdict :=
  match Digest.BcryptHash.parse? hash with
  | some h => .ofBool (h.verify (Utf8.encode password))
  | none => .broken

/-- Compare with a hash of the first scheme, whose salt is its first two characters. -/
def checkCrypt (hash password : String) : Verdict :=
  match hash.toList with
  | a :: b :: _ =>
    if Digest.cryptAlphabet.contains a && Digest.cryptAlphabet.contains b then
      .ofBool (Digest.DesCrypt.hash (Utf8.encode password) (a, b) == hash)
    else .rejected
  | _ => .rejected

/-- The text of a password's SHA-1 hash without its beginning. -/
def shaText (password : String) : String :=
  (Utf8.decode? (Base64.encode (Digest.sha1 (Utf8.encode password)))).getD ""

/-- Compare a password with a hash. The beginning of the hash names the algorithm; every other hash
is taken for one of the first scheme of password files (`verify`). -/
def check (hash password : String) : Verdict :=
  if (after? apr1Mark hash).isSome then checkApr1 hash password
  else if (after? bcryptMark hash).isSome then checkBcrypt hash password
  else
    match after? shaMark hash with
    | some text => .ofBool (shaText password == text)
    | none => checkCrypt hash password

end PasswordHash

end ProxySettings
