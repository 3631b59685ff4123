import DnsForwarder.Text.Digits
import DnsForwarder.Wire.Bytes

/-!
# Failures

Every failure of the forwarder has a cause, a kind, and a message for people.
The causes are kept apart as constructors and the wording stands in
`Fault.message` alone.  A `Report` is what is left of a failure once it has
been worded; a report made from another failure remembers that it has a source,
and a copy of it forgets the source.
-/

namespace DnsForwarder

inductive FaultKind
  | configuration
  | protocol
  | remote
  | timeout
  | inputOutput
  | serialization
  | internal
deriving DecidableEq, Repr

namespace FaultKind

def all : List FaultKind :=
  [configuration, protocol, remote, timeout, inputOutput, serialization, internal]

/-- The text that starts a report. -/
def text : FaultKind → String
  | configuration => "CONFIGURATION"
  | protocol => "PROTOCOL"
  | remote => "UPSTREAM"
  | timeout => "TIMEOUT"
  | inputOutput => "IO"
  | serialization => "SERIALIZATION"
  | internal => "INTERNAL"

/-- The name that stands for the kind in data. -/
def tag : FaultKind → String
  | configuration => "Configuration"
  | protocol => "Protocol"
  | remote => "Upstream"
  | timeout => "Timeout"
  | inputOutput => "Io"
  | serialization => "Serialization"
  | internal => "Internal"

def ofTag? (tag : String) : Option FaultKind :=
  all.find? fun kind => kind.tag == tag

theorem ofTag?_tag (kind : FaultKind) : ofTag? kind.tag = some kind := by
  cases kind <;> decide

end FaultKind

/-- What the operating system refuses. -/
inductive SystemFault
  | networkUnreachable
  | addressNotAvailable
  | addressInUse
  | permissionDenied
  | messageTooLong
  | invalidArgument
deriving DecidableEq, Repr

namespace SystemFault

def text : SystemFault → String
  | networkUnreachable => "Network is unreachable (os error 101)"
  | addressNotAvailable => "Cannot assign requested address (os error 99)"
  | addressInUse => "Address already in use (os error 98)"
  | permissionDenied => "Permission denied (os error 13)"
  | messageTooLong => "Message too long (os error 90)"
  | invalidArgument => "Invalid argument (os error 22)"

end SystemFault

/-- What makes a text no URL. -/
inductive UrlFault
  | emptyHost
  | internationalName
  | badPortNumber
  | ipv4Address
  | ipv6Address
  | hostCharacter
  | relative
deriving DecidableEq, Repr

namespace UrlFault

def text : UrlFault → String
  | emptyHost => "empty host"
  | internationalName => "invalid international domain name"
  | badPortNumber => "invalid port number"
  | ipv4Address => "invalid IPv4 address"
  | ipv6Address => "invalid IPv6 address"
  | hostCharacter => "invalid domain character"
  | relative => "relative URL without a base"

end UrlFault

structure Report where
  kind : FaultKind
  message : String
  hasSource : Bool
deriving DecidableEq, Repr

namespace Report

def text (report : Report) : String := report.kind.text ++ ": " ++ report.message

/-- A copy has no source. -/
def copy (report : Report) : Report := { report with hasSource := false }

/-! Reports made from a failure that comes with its own text. -/

def ofSystem (text : String) : Report := ⟨.inputOutput, "I/O error: " ++ text, true⟩

def ofSettings (text : String) : Report :=
  ⟨.configuration, "Configuration error: " ++ text, true⟩

def ofMessage (text : String) : Report := ⟨.protocol, "DNS message error: " ++ text, true⟩

end Report

inductive Fault
  /-- A message of this many bytes has no transaction ID. -/
  | idMissing (size : Nat)
  /-- A request of this many bytes has no header. -/
  | headerMissing (size : Nat)
  | undecodable
  | unencodable
  /-- The remote server answered with this many bytes. -/
  | answerTooShort (size : Nat)
  | noAnswer (server : String) (milliseconds : Nat)
  | idsExhausted
  | clientStopped
  | statusRefused (status : String)
  | bodyTooShort (size : Nat)
  | httpTimeout
  | httpFailed
  | httpClient
  | noBindAddress
  | payloadOutOfRange (size : Nat)
  | urlMissing
  | urlNotHttps (url : String)
  | badSocketAddress (address : String)
  | badServerAddress (address : String)
  | badUrl (url : String) (cause : UrlFault)
  | badBareUrl (cause : UrlFault)
  | schemeNotHttps (scheme : String)
  | unknownProvider (name : String)
  | unknownCacheProvider (name : String)
  | lifetimesCrossed (lowest highest : Nat)
  | unknownLogFormat (name : String)
  | configNotBuilt
  | configNotRead
  | nothingBound (addresses : List String) (refused : Bool)
  | notJson
  | system (cause : SystemFault)
  /-- A failure that was worded elsewhere. -/
  | reported (report : Report)
deriving DecidableEq, Repr

namespace Fault

def kind : Fault → FaultKind
  | idMissing _ | headerMissing _ | undecodable | unencodable | bodyTooShort _ => .protocol
  | answerTooShort _ | idsExhausted | clientStopped | statusRefused _ | httpFailed => .remote
  | noAnswer _ _ | httpTimeout => .timeout
  | noBindAddress | payloadOutOfRange _ | urlMissing | urlNotHttps _ | badSocketAddress _
  | badServerAddress _ | badUrl _ _ | badBareUrl _ | schemeNotHttps _
  | unknownProvider _ | unknownCacheProvider _ | lifetimesCrossed _ _ | unknownLogFormat _
  | configNotBuilt | configNotRead | httpClient => .configuration
  | nothingBound _ refused => if refused then .inputOutput else .configuration
  | notJson => .serialization
  | system _ => .inputOutput
  | reported report => report.kind

def message : Fault → String
  | idMissing size =>
    "message of " ++ Text.decimal size ++ " bytes is too short to carry a transaction ID"
  | headerMissing size =>
    "request of " ++ Text.decimal size ++ " bytes is shorter than the DNS header"
  | undecodable | unencodable => "DNS message error"
  | answerTooShort size =>
    "upstream returned " ++ Text.decimal size ++ " bytes, shorter than a DNS header"
  | noAnswer server milliseconds =>
    "no response from " ++ server ++ " within " ++ Text.decimal milliseconds ++ " ms"
  | idsExhausted => "every transaction ID is in use by an in-flight query"
  | clientStopped => "UDP upstream stopped before a response arrived"
  | statusRefused status => "DoH server returned non-success status: " ++ status
  | bodyTooShort size =>
    "DoH server returned " ++ Text.decimal size ++ " bytes, shorter than a DNS header"
  | httpTimeout => "DoH request timed out"
  | httpFailed => "DoH request failed"
  | httpClient => "Failed to build HTTP client"
  | noBindAddress => "server.bind_addresses must contain at least one address"
  | payloadOutOfRange size =>
    "server.max_udp_payload must be between 512 and 65535, got " ++ Text.decimal size
  | urlMissing => "upstream.https.url is required for the 'https' provider"
  | urlNotHttps url => "upstream.https.url must use the https scheme, got '" ++ url ++ "'"
  | badSocketAddress address =>
    "upstream.udp.address '" ++ address ++ "' is not ip:port: invalid socket address syntax"
  | badServerAddress address =>
    "Invalid UDP upstream address '" ++ address ++ "': invalid socket address syntax"
  | badUrl url cause => "Invalid DoH URL '" ++ url ++ "': " ++ cause.text
  | badBareUrl cause => cause.text
  | schemeNotHttps scheme =>
    "DoH upstream requires an 'https' URL, got scheme '" ++ scheme ++ "'"
  | unknownProvider name =>
    "Unknown upstream provider: '" ++ name ++ "'. Supported: https, udp"
  | unknownCacheProvider name =>
    "Unknown cache provider: '" ++ name ++ "'. Supported: memory, disabled"
  | lifetimesCrossed lowest highest =>
    "cache.min_ttl_seconds (" ++ Text.decimal lowest ++ ") exceeds cache.max_ttl_seconds (" ++
      Text.decimal highest ++ ")"
  | unknownLogFormat name =>
    "Unknown logging format: '" ++ name ++ "'. Supported: pretty, compact, json"
  | configNotBuilt => "Failed to build config"
  | configNotRead => "Failed to deserialize config"
  | nothingBound addresses _ => "could not bind any of [" ++ ", ".intercalate addresses ++ "]"
  | notJson => "JSON serialization error"
  | system cause => "I/O error: " ++ cause.text
  | reported report => report.message

/-- Whether the failure was made from one of another library or the system. -/
def hasSource : Fault → Bool
  | undecodable | unencodable | httpTimeout | httpFailed | httpClient | notJson | system _ => true
  | nothingBound _ refused => refused
  | reported report => report.hasSource
  | _ => false

def report (fault : Fault) : Report := ⟨fault.kind, fault.message, fault.hasSource⟩

end Fault

end DnsForwarder
