import ProxySettings.Encoding.Utf8
import ProxySettings.Idna.Domain
import ProxySettings.Url.Ipv4
import ProxySettings.Url.Ipv6

/-!
# Hosts

The host of an address is an IPv6 address in brackets, an IPv4 address, or a domain name in ASCII.
-/

namespace ProxySettings

/-- The host of an address. -/
inductive Url.Host where
  | domain (name : String)
  | ipv4 (address : Nat)
  | ipv6 (pieces : List Nat)
  deriving Repr, DecidableEq

namespace Url

/-- The bytes of a text in which a percent sign and two hexadecimal digits stand for a byte. -/
def percentDecoded : List UInt8 → List UInt8
  | 37 :: a :: b :: rest =>
    match Text.number? 16 [Char.ofNat a.toNat, Char.ofNat b.toNat] with
    | some n => n.toUInt8 :: percentDecoded rest
    | none => 37 :: percentDecoded (a :: b :: rest)
  | b :: rest => b :: percentDecoded rest
  | [] => []

/-- Read a host. -/
def Host.parse? (cs : List Char) : Option Host :=
  match cs with
  | '[' :: rest =>
    match rest.reverse with
    | ']' :: inside => (ipv6? inside.reverse).map .ipv6
    | _ => none
  | cs => do
    let text ← Utf8.decode? (percentDecoded (Utf8.encode (String.ofList cs)))
    let name ← Idna.toAscii? text.toList
    guard (!name.isEmpty)
    if endsInNumber name then (ipv4? name).map .ipv4 else return .domain (String.ofList name)

/-- The text of a host, without brackets. -/
def Host.text : Host → String
  | domain name => name
  | ipv4 address => ipv4Text address
  | ipv6 pieces => ipv6Text pieces

end Url

end ProxySettings
