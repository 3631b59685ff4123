import DnsForwarder.Program.Start

/-!
# Serving without a network

A service on a host that reaches nothing still receives datagrams, keeps its cache
and its counters, and replies; a query that it has to forward fails.
-/

namespace DnsForwarder.Program.Service

/-- What the first request of a service finds. -/
def initial (service : Service) : Shared := { cache := service.cache }

/-- What surrounds a request that comes at this time. -/
def surroundings (service : Service) (now : Instant) : Surroundings where
  now
  remote := service.remote.unreached
  sends reply := reply.length ≤ Network.largestDatagram

/-- Takes one datagram; the result is the reply that left the socket. -/
def receive (service : Service) (shared : Shared) (now : Instant) (datagram : Bytes) :
    Option Bytes × Shared :=
  let (reply, after, _) :=
    (Listener.serve service.options service.bufferSize datagram).run (service.surroundings now)
      shared
  (reply, after)

end DnsForwarder.Program.Service
