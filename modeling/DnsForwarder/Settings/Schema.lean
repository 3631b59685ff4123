import DnsForwarder.Settings.Basic

/-!
# Reading settings out of data

Settings are read from JSON and from configuration files, whose values convert
into settings by different rules.  A `Source` gives those rules for one kind of
value; what the sections and settings are called, and in which order, is the
same for all and stands in this module.

A section is given by name or by position, and names that mean nothing are passed
over.  A setting that its section leaves out has the default that stands here
beside its name, not the one of the structure, and a section that is left out is
its structure's `{}`.
-/

namespace DnsForwarder.Settings

/-- The values of a section. -/
inductive Section (Value : Type)
  | named (values : List (String × Value))
  | placed (values : List Value)

/-- How values become settings. -/
structure Source (Value : Type) where
  /-- The values of a section with this many settings. -/
  sectionValues? : Nat → Value → Option (Section Value)
  text? : Value → Option String
  flag? : Value → Option Bool
  natural? : Value → Option Nat
  list? : Value → Option (List Value)
  /-- Whether the value says that there is none. -/
  isAbsent : Value → Bool

variable {Value Setting : Type}

/-- The value of a setting; by name the last one counts. -/
def Section.get? (values : Section Value) (place : Nat) (name : String) : Option Value :=
  match values with
  | .named values => values.reverse.lookup name
  | .placed values => values[place]?

/-- Reads one setting of a section. -/
def Section.read (values : Section Value) (place : Nat) (name : String) (default : Setting)
    (convert : Value → Option Setting) : Option Setting :=
  match values.get? place name with
  | none => some default
  | some value => convert value

namespace Source

variable (source : Source Value)

def word16? (value : Value) : Option UInt16 :=
  ((source.natural? value).filter (· < 65536)).map UInt16.ofNat

def word64? (value : Value) : Option UInt64 :=
  ((source.natural? value).filter (· < 18446744073709551616)).map UInt64.ofNat

def address? (value : Value) : Option IpAddress :=
  (source.text? value).bind IpAddress.ofString?

def addresses? (value : Value) : Option (List IpAddress) :=
  (source.list? value).bind fun values => values.mapM source.address?

/-- A setting that may have no value. -/
def optional? (convert : Value → Option Setting) (value : Value) : Option (Option Setting) :=
  if source.isAbsent value then some none else (convert value).map some

def listening? (value : Value) : Option Listening := do
  let values ← source.sectionValues? 5 value
  return {
    bindAddresses := ←
      values.read 0 "bind_addresses" Listening.defaultAddresses source.addresses?
    portNumber := ← values.read 1 "port" Listening.defaultPort source.word16?
    largestPayload := ← values.read 2 "max_udp_payload" Listening.defaultPayload source.word64?
    refuseOnError := ← values.read 3 "servfail_on_error" Listening.defaultRefusal source.flag?
    graceSeconds := ←
      values.read 4 "shutdown_grace_seconds" Listening.defaultGrace source.word64? }

def https? (value : Value) : Option Https := do
  let values ← source.sectionValues? 3 value
  return {
    url := ← values.read 0 "url" none (source.optional? source.text?)
    bootstrapIp := ← values.read 1 "bootstrap_ip" none (source.optional? source.address?)
    timeoutSeconds := ← values.read 2 "timeout_seconds" Https.defaultTimeout source.word64? }

def udp? (value : Value) : Option Udp := do
  let values ← source.sectionValues? 2 value
  return {
    address := ← values.read 0 "address" Udp.defaultAddress source.text?
    timeoutSeconds := ← values.read 1 "timeout_seconds" Udp.defaultTimeout source.word64? }

def forwarding? (value : Value) : Option Forwarding := do
  let values ← source.sectionValues? 3 value
  return {
    provider := ← values.read 0 "provider" Forwarding.defaultProvider source.text?
    https := ← values.read 1 "https" {} source.https?
    udp := ← values.read 2 "udp" {} source.udp? }

def caching? (value : Value) : Option Caching := do
  let values ← source.sectionValues? 5 value
  return {
    provider := ← values.read 0 "provider" Caching.defaultProvider source.text?
    capacity := ← values.read 1 "max_capacity" Caching.defaultCapacity source.word64?
    lowestSeconds := ← values.read 2 "min_ttl_seconds" 0 source.word64?
    highestSeconds := ← values.read 3 "max_ttl_seconds" Caching.defaultHighest source.word64?
    negativeSeconds := ←
      values.read 4 "negative_ttl_seconds" Caching.defaultNegative source.word64? }

def logging? (value : Value) : Option Logging := do
  let values ← source.sectionValues? 2 value
  return {
    level := ← values.read 0 "level" Logging.defaultLevel source.text?
    format := ← values.read 1 "format" Logging.defaultFormat source.text? }

def settings? (value : Value) : Option Settings := do
  let values ← source.sectionValues? 4 value
  return {
    listening := ← values.read 0 "server" {} source.listening?
    forwarding := ← values.read 1 "upstream" {} source.forwarding?
    caching := ← values.read 2 "cache" {} source.caching?
    logging := ← values.read 3 "logging" {} source.logging? }

end Source

end DnsForwarder.Settings
