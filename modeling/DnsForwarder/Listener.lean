import DnsForwarder.Net.Network
import DnsForwarder.Resolver.Handle

/-!
# Listening

One socket is bound for each address; those that the system refuses are passed
over as long as one is left.  A datagram is cut to the receive buffer, handled, and
answered if there is a reply, which counts as sent only if the socket took it.
-/

namespace DnsForwarder.Listener

/-- Binds sockets; `bound` are those so far, and `refused` says whether the system
refused one. -/
def bindFrom (network : Network) (bound : List SocketAddress) (refused : Bool) :
    List SocketAddress → List SocketAddress × Bool
  | [] => (bound, refused)
  | address :: rest =>
    match network.bind bound address with
    | .ok _ => bindFrom network (bound ++ [address]) refused rest
    | .error _ => bindFrom network bound true rest

/-- The addresses that were bound, in their order. -/
def bind (network : Network) (addresses : List SocketAddress) :
    Except Fault (List SocketAddress) :=
  match bindFrom network [] false addresses with
  | ([], refused) => .error (.nothingBound (addresses.map SocketAddress.text) refused)
  | (bound, _) => .ok bound

/-- Sends a reply, if there is one. -/
def answer : Option Bytes → Action (Option Bytes)
  | none => .done none
  | some reply =>
    .send reply fun sent => if sent then .count .sent (.done (some reply)) else .done none

/-- What is done about one datagram; the result is the reply that left the socket. -/
def serve (options : Resolver.Options) (buffer : Nat) (datagram : Bytes) :
    Action (Option Bytes) :=
  (Resolver.handle options (datagram.take buffer)).bind answer

end DnsForwarder.Listener
