import DnsForwarder.Json.Parser
import DnsForwarder.Json.Printer
import DnsForwarder.Settings.Schema

/-!
# Settings as JSON

Settings are written with every section and every setting, in their order, and
are read back without loss.  JSON values convert to settings of their own type
only: a number has to be an integer without fraction, and nothing stands for
nothing.
-/

namespace DnsForwarder.Settings

/-- JSON values as settings.  A section given by position has no more values
than settings. -/
def jsonSource : Source Json where
  sectionValues? count value :=
    match value with
    | .object fields => some (.named fields)
    | .array items => if items.length ≤ count then some (.placed items) else none
    | _ => none
  text? := Json.asString?
  flag? := Json.asBool?
  natural? := Json.asNat?
  list? := Json.asArray?
  isAbsent value :=
    match value with
    | .null => true
    | _ => false

def natural (value : UInt64) : Json := .integer value.toNat

def optional (text : Option String) : Json :=
  match text with
  | some text => .string text
  | none => .null

def Listening.toJson (listening : Listening) : Json :=
  .object
    [("bind_addresses", .array (listening.bindAddresses.map fun address => .string address.text)),
     ("port", .integer listening.portNumber.toNat),
     ("max_udp_payload", natural listening.largestPayload),
     ("servfail_on_error", .bool listening.refuseOnError),
     ("shutdown_grace_seconds", natural listening.graceSeconds)]

def Https.toJson (https : Https) : Json :=
  .object
    [("url", optional https.url),
     ("bootstrap_ip", optional (https.bootstrapIp.map IpAddress.text)),
     ("timeout_seconds", natural https.timeoutSeconds)]

def Udp.toJson (udp : Udp) : Json :=
  .object [("address", .string udp.address), ("timeout_seconds", natural udp.timeoutSeconds)]

def Forwarding.toJson (forwarding : Forwarding) : Json :=
  .object
    [("provider", .string forwarding.provider),
     ("https", forwarding.https.toJson),
     ("udp", forwarding.udp.toJson)]

def Caching.toJson (caching : Caching) : Json :=
  .object
    [("provider", .string caching.provider),
     ("max_capacity", natural caching.capacity),
     ("min_ttl_seconds", natural caching.lowestSeconds),
     ("max_ttl_seconds", natural caching.highestSeconds),
     ("negative_ttl_seconds", natural caching.negativeSeconds)]

def Logging.toJson (logging : Logging) : Json :=
  .object [("level", .string logging.level), ("format", .string logging.format)]

def toJson (settings : Settings) : Json :=
  .object
    [("server", settings.listening.toJson),
     ("upstream", settings.forwarding.toJson),
     ("cache", settings.caching.toJson),
     ("logging", settings.logging.toJson)]

def ofJson (value : Json) : Except Fault Settings :=
  match jsonSource.settings? value with
  | some settings => .ok settings
  | none => .error .notJson

/-- The forwarding section alone. -/
def Forwarding.ofJson (value : Json) : Except Fault Forwarding :=
  match jsonSource.forwarding? value with
  | some forwarding => .ok forwarding
  | none => .error .notJson

/-- The text of the settings for people. -/
def render (settings : Settings) : String := settings.toJson.indented

def ofRendered (text : String) : Except Fault Settings :=
  match Json.parse? text with
  | some value => ofJson value
  | none => .error .notJson

end DnsForwarder.Settings
