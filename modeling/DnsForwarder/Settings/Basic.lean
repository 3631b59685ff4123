import DnsForwarder.Clock
import DnsForwarder.Fault
import DnsForwarder.Message.Lifetime
import DnsForwarder.Net.Address
import DnsForwarder.Resolver.Handle

/-!
# Settings

The settings come in four sections.  Every setting has a default, so a section
or a setting may be left out; only the address of an HTTPS server has no value
by default and has to be named somewhere.

A default counts in two places: in a section that is left out as a whole, which
is the `{}` of its structure, and in a section that is there without the setting
(`DnsForwarder.Settings.Schema`).
-/

namespace DnsForwarder.Settings

namespace Listening

def defaultAddresses : List IpAddress := [.v4 .loopback, .v6 .loopback]

def defaultPort : UInt16 := 53

def defaultPayload : UInt64 := 4096

def defaultRefusal : Bool := true

def defaultGrace : UInt64 := 5

end Listening

structure Listening where
  /-- One socket is bound for each address. -/
  bindAddresses : List IpAddress := Listening.defaultAddresses
  portNumber : UInt16 := Listening.defaultPort
  /-- The size of the receive buffer, and the largest response for clients that
  name a size. -/
  largestPayload : UInt64 := Listening.defaultPayload
  refuseOnError : Bool := Listening.defaultRefusal
  /-- How long requests in flight may take when the program stops. -/
  graceSeconds : UInt64 := Listening.defaultGrace
deriving DecidableEq, Repr

def Https.defaultTimeout : UInt64 := 10

structure Https where
  url : Option String := none
  /-- The address of the server's host, so that its name is not looked up. -/
  bootstrapIp : Option IpAddress := none
  timeoutSeconds : UInt64 := Https.defaultTimeout
deriving DecidableEq, Repr

def Udp.defaultAddress : String := "9.9.9.10:53"

def Udp.defaultTimeout : UInt64 := 5

structure Udp where
  address : String := Udp.defaultAddress
  timeoutSeconds : UInt64 := Udp.defaultTimeout
deriving DecidableEq, Repr

def Forwarding.defaultProvider : String := "https"

/-- The server that requests are forwarded to. -/
structure Forwarding where
  provider : String := Forwarding.defaultProvider
  https : Https := {}
  udp : Udp := {}
deriving DecidableEq, Repr

namespace Caching

def defaultProvider : String := "memory"

def defaultCapacity : UInt64 := 10000

def defaultHighest : UInt64 := 86400

def defaultNegative : UInt64 := 300

end Caching

structure Caching where
  provider : String := Caching.defaultProvider
  capacity : UInt64 := Caching.defaultCapacity
  lowestSeconds : UInt64 := 0
  highestSeconds : UInt64 := Caching.defaultHighest
  negativeSeconds : UInt64 := Caching.defaultNegative
deriving DecidableEq, Repr

def Logging.defaultLevel : String := "info"

def Logging.defaultFormat : String := "compact"

structure Logging where
  level : String := Logging.defaultLevel
  format : String := Logging.defaultFormat
deriving DecidableEq, Repr

end Settings

structure Settings where
  listening : Settings.Listening := {}
  forwarding : Settings.Forwarding := {}
  caching : Settings.Caching := {}
  logging : Settings.Logging := {}
deriving DecidableEq, Repr

namespace Settings

/-- The socket addresses to listen on. -/
def Listening.socketAddresses (listening : Listening) : List SocketAddress :=
  listening.bindAddresses.map fun address => .of address listening.portNumber

def Caching.lifetimes (caching : Caching) : LifetimePolicy where
  lowest := seconds caching.lowestSeconds.toNat
  highest := seconds caching.highestSeconds.toNat
  negative := seconds caching.negativeSeconds.toNat

def resolverOptions (settings : Settings) : Resolver.Options where
  refuseOnError := settings.listening.refuseOnError
  largestPayload := settings.listening.largestPayload.toNat
  lifetimes := settings.caching.lifetimes

end Settings

end DnsForwarder
