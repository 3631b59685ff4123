import DnsForwarder.Net.Network
import DnsForwarder.Remote.Doh
import DnsForwarder.Settings.Basic
import DnsForwarder.Url.Basic

/-!
# The remote server

The settings name the server that queries are forwarded to and how to reach it.  A
client for an HTTPS server needs a URL of that scheme; a client for a UDP server
connects a socket at once.
-/

namespace DnsForwarder

inductive Remote
  | https (url : Url.Https) (bootstrapIp : Option IpAddress) (timeoutSeconds : UInt64)
  | udp (server : SocketAddress) (timeoutSeconds : UInt64)
deriving DecidableEq, Repr

namespace Remote

def kind : Remote → String
  | https _ _ _ => "https"
  | udp _ _ => "udp"

/-- A client for the server that a URL names. -/
def ofUrl (url : Url) (bootstrapIp : Option IpAddress) (timeoutSeconds : UInt64) :
    Except Fault Remote :=
  match url.https? with
  | some url => .ok (https url bootstrapIp timeoutSeconds)
  | none => .error (.schemeNotHttps (String.ofList url.scheme))

def ofHttps (settings : Settings.Https) : Except Fault Remote :=
  match settings.url with
  | none => .error .urlMissing
  | some text =>
    match Url.parse text with
    | .error cause => .error (.badUrl text cause)
    | .ok url => ofUrl url settings.bootstrapIp settings.timeoutSeconds

def ofUdp (network : Network) (settings : Settings.Udp) : Except Fault Remote :=
  match SocketAddress.ofString? settings.address with
  | none => .error (.badServerAddress settings.address)
  | some server =>
    match network.connect server with
    | .ok _ => .ok (udp server settings.timeoutSeconds)
    | .error cause => .error (.system cause)

/-- The client that the settings ask for. -/
def connect (network : Network) (settings : Settings.Forwarding) : Except Fault Remote :=
  if settings.provider = "https" then ofHttps settings.https
  else if settings.provider = "udp" then ofUdp network settings.udp
  else .error (.unknownProvider settings.provider)

/-- What a client makes of a query when no route leads to its server. -/
def unreached (remote : Remote) (query : Bytes) : Except Fault Bytes :=
  match remote with
  | https _ _ _ => Doh.resolve (fun _ => .failed) query
  | udp _ _ =>
    match Datagram.id query with
    | .ok _ => .error (.system .networkUnreachable)
    | .error fault => .error fault

end Remote

end DnsForwarder
