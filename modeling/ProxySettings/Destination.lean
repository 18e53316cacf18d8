import ProxySettings.Url.Ipv4
import ProxySettings.Url.Ipv6

/-!
# Destinations of redirected connections

In transparent mode a resolver tells where a redirected connection was headed. The platform's own
resolver asks the system, which keeps the answer with the connection. In the proxy these are
`DestinationResolver` and `resolver`.
-/

namespace ProxySettings

/-- An address with a port. -/
structure SocketAddress where
  host : String
  port : UInt16
  deriving Repr, DecidableEq

namespace SocketAddress

/-- An address as `host:port`; an IPv6 host is in brackets. -/
def text (a : SocketAddress) : String := a.host ++ ":" ++ toString a.port.toNat

private def port? (cs : List Char) : Option UInt16 :=
  ((Text.number? 10 cs).filter (· ≤ 65535)).map UInt16.ofNat

private def ipv4Host? (cs : List Char) : Option String :=
  let parts := Text.splitOnAll (· == '.') cs
  let isByte (p : List Char) : Bool :=
    (p.length == 1 || p.head? != some '0') && (Text.number? 10 p).any (· < 256)
  if parts.length = 4 ∧ parts.all isByte then some (String.ofList cs) else none

private def ipv6HostText (pieces : List Nat) : String :=
  match pieces with
  | [0, 0, 0, 0, 0, 0xffff, a, b] => "::ffff:" ++ Url.ipv4Text (a * 65536 + b)
  | ps => Url.ipv6Text ps

/-- Read an address. -/
def parse? (text : String) : Option SocketAddress :=
  match text.toList with
  | '[' :: rest =>
    match rest.span (· != ']') with
    | (host, ']' :: ':' :: port) => do
      return ⟨"[" ++ ipv6HostText (← Url.ipv6? host) ++ "]", ← port? port⟩
    | _ => none
  | cs =>
    match Text.cutAt ':' cs with
    | some (host, port) => do return ⟨← ipv4Host? host, ← port? port⟩
    | none => none

end SocketAddress

/-- Why a destination is not known: a fault of the system, by its number, or any other reason. -/
inductive ResolverFault where
  | system (number : Nat)
  | other (reason : String)
  deriving Repr, DecidableEq

/-- A connection that was accepted, with what the system answers when it is asked where the
connection was headed before it was redirected. -/
structure Connection where
  redirected : Except ResolverFault SocketAddress

/-- How the destination of a connection is found (`DestinationResolver`). -/
structure Resolver where
  address : Connection → Except ResolverFault SocketAddress

/-- The resolver of the platform (`resolver`). -/
def Resolver.platform : Resolver := ⟨Connection.redirected⟩

/-- Where a connection is headed, and whether it carries TLS. -/
structure Destination where
  address : SocketAddress
  tls : Bool
  deriving Repr, DecidableEq

end ProxySettings
