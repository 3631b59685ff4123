import DnsForwarder.Fault
import DnsForwarder.Net.Address

/-!
# What the network of a host allows

Datagram sockets are connected to servers and bound to local addresses, and the
system may refuse either.  `isolated` is the network of a host that reaches
nothing: no route leads anywhere, but local addresses of the fourth version can be
bound without being assigned to the host.
-/

namespace DnsForwarder

structure Network where
  /-- Whether datagrams can be sent to an address. -/
  connect : SocketAddress → Except SystemFault Unit
  /-- Whether an address can be bound beside those that are bound. -/
  bind : List SocketAddress → SocketAddress → Except SystemFault Unit

namespace IpAddress

/-- The address that datagrams carry: in place of one that maps an IPv4 address, that
address. -/
def carried : IpAddress → IpAddress
  | v4 address => v4 address
  | v6 address =>
    match address.mapped? with
    | some mapped => v4 mapped
    | none => v6 address

/-- Whether two sockets of one number would receive the same datagrams.  The
unspecified address of the sixth version stands for those of both versions. -/
def overlaps : IpAddress → IpAddress → Bool
  | v4 one, v4 other => one == other || one == .unspecified || other == .unspecified
  | v6 one, v6 other => one == other || one == .unspecified || other == .unspecified
  | v6 one, v4 _ | v4 _, v6 one => one == .unspecified

end IpAddress

namespace Network

/-- The largest content of a datagram. -/
def largestDatagram : Nat := 65507

/-- The numbers below this one are for privileged programs. -/
def firstFreeNumber : Nat := 1024

/-- Whether an address is taken; number zero asks for any number that is free. -/
def isTaken (bound : List SocketAddress) (address : SocketAddress) : Bool :=
  address.number != 0 &&
    bound.any fun other =>
      other.number == address.number && other.ip.carried.overlaps address.ip.carried

/-- Whether an address has a meaning only together with an interface: it is good
for one link, or for the host alone. -/
def needsScope (address : Ipv6) : Bool :=
  match address.groups with
  | first :: _ =>
    first.toNat / 64 = 0xfe80 / 64 ||
      first.toNat / 256 = 0xff && (first.toNat % 16 = 1 || first.toNat % 16 = 2)
  | [] => false

def isMulticast (address : Ipv6) : Bool :=
  address.groups.head?.any fun first => 0xff00 ≤ first

/-- Whether the interface that an address needs is missing. -/
def scopeMissing : SocketAddress → Bool
  | .v4 _ _ => false
  | .v6 address scope _ => needsScope address && scope == 0

/-- The addresses that can be bound without being assigned to the host. -/
def isBindable (address : IpAddress) : Bool :=
  match address.carried with
  | .v4 _ => true
  | .v6 address => address == .unspecified || isMulticast address

def isolated : Network where
  connect address :=
    if address.ip.carried = .v4 .unspecified then .ok ()
    else if scopeMissing address then .error .invalidArgument
    else .error .networkUnreachable
  bind bound address :=
    if !isBindable address.ip then .error .addressNotAvailable
    else if scopeMissing address then .error .invalidArgument
    else if 0 < address.number.toNat ∧ address.number.toNat < firstFreeNumber then
      .error .permissionDenied
    else if isTaken bound address then .error .addressInUse
    else .ok ()

end Network

end DnsForwarder
