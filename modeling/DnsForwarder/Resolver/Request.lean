import DnsForwarder.Clock
import DnsForwarder.Net.Address
import DnsForwarder.Wire.Bytes

/-!
# Received requests

A request is numbered as it comes in.  The numbers start at zero, go up by one,
and after the last one of 64 bits start again.
-/

namespace DnsForwarder.Resolver

structure Request where
  number : UInt64
  receivedAt : Instant
  /-- Where the query came from and the reply goes to. -/
  peer : SocketAddress
  data : Bytes
deriving DecidableEq, Repr

/-- The numbers that were given out so far. -/
structure Numbering where
  next : UInt64 := 0
deriving DecidableEq, Repr

namespace Numbering

/-- Numbers one request. -/
def receive (numbering : Numbering) (peer : SocketAddress) (receivedAt : Instant)
    (data : Bytes) : Request × Numbering :=
  (⟨numbering.next, receivedAt, peer, data⟩, ⟨numbering.next + 1⟩)

/-- The requests that a list of datagrams becomes. -/
def receiveAll (numbering : Numbering) (peer : SocketAddress) (receivedAt : Instant) :
    List Bytes → List Request
  | [] => []
  | data :: rest =>
    let (request, numbering) := numbering.receive peer receivedAt data
    request :: numbering.receiveAll peer receivedAt rest

end Numbering

end DnsForwarder.Resolver
