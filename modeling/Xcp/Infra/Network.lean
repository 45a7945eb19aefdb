import Xcp.Infra.Basic

/-!
# Addresses and endpoints

`infra::tcp_sockaddr` and `infra::tcp_endpoint`.
-/

namespace Xcp

/-- `infra::tcp_sockaddr`: the address bytes are in network order, the port is what `port()`
returns. -/
inductive TcpSockaddr where
  | ipv4 (port : ℕ) (addr : Vector UInt8 4)
  | ipv6 (port flowinfo : ℕ) (addr : Vector UInt8 16) (scopeId : ℕ)
  deriving DecidableEq

namespace TcpSockaddr

def port : TcpSockaddr → ℕ
  | ipv4 p _     => p
  | ipv6 p _ _ _ => p

def setPort : TcpSockaddr → ℕ → TcpSockaddr
  | ipv4 _ a, p     => ipv4 p a
  | ipv6 _ f a s, p => ipv6 p f a s

/-- `INADDR_ANY` or `in6addr_any`. -/
def isAddrAny : TcpSockaddr → Bool
  | ipv4 _ a     => a = Vector.replicate 4 0
  | ipv6 _ _ a _ => a = Vector.replicate 16 0

end TcpSockaddr

/-- `infra::tcp_endpoint`. -/
structure TcpEndpoint where
  host : String := ""
  port : Option ℕ := none
  repeats : Option ℕ := none
  resolvedSockaddrs : List TcpSockaddr := []

namespace TcpEndpoint

/-- What `tcp_endpoint::parse` leaves: the repeats, when given, are a positive `int`. -/
def Parsed (ep : TcpEndpoint) : Prop := ∀ r ∈ ep.repeats, 0 < r ∧ r < intBound

/-- The name looked up for the host: an IPv6 address without its brackets. -/
def lookupName (ep : TcpEndpoint) : String :=
  if ep.host.front = '[' ∧ ep.host.back = ']' then
    ((ep.host.drop 1).dropEnd 1).toString
  else ep.host

/-- `tcp_endpoint::resolve`, for an endpoint with a port; `getaddrinfo` answers with the addresses
of a name. `false` leaves the endpoint as it was. -/
def resolve (getaddrinfo : String → Option (List TcpSockaddr)) (ep : TcpEndpoint) :
    Outcome Unit TcpEndpoint :=
  let port := ep.port.getD 0
  if ep.host = "*" then
    .ok { ep with resolvedSockaddrs :=
      [.ipv6 port 0 (.replicate 16 0) 0, .ipv4 port (.replicate 4 0)] }
  else
    match getaddrinfo ep.lookupName with
    | some addrs => .ok { ep with resolvedSockaddrs := addrs.map (·.setPort port) }
    | none       => .error ()

end TcpEndpoint

end Xcp
