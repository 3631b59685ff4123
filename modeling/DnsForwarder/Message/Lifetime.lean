import DnsForwarder.Clock
import DnsForwarder.Fault
import DnsForwarder.Message.Wire

/-!
# How long a response lives, and what is left of it

A positive answer lives as long as its shortest record.  A negative one (the
name does not exist, or it has no records of the type) lives as long as the
first SOA record among its authorities allows, and for a fixed time without
one.  Truncated responses, responses without a question and every other
response code are not kept.

A kept response that answers a later request takes over the ID and the
questions of that request, and each record loses the seconds that have passed.
-/

namespace DnsForwarder

/-- Bounds for the time a response is kept. -/
structure LifetimePolicy where
  lowest : Duration
  highest : Duration
  /-- The lifetime of a negative answer without an SOA record. -/
  negative : Duration
deriving DecidableEq, Repr

namespace Record

/-- How long the absence that an SOA record states may be believed. -/
def negativeLifetime? (record : Record) : Option UInt32 :=
  match record.data with
  | some (.authority _ _ _ _ _ _ minimum) => some (min record.ttl minimum)
  | _ => none

def aged (elapsed : Duration) (record : Record) : Record :=
  { record with ttl := UInt32.ofNat (record.ttl.toNat - wholeSeconds elapsed) }

end Record

namespace Message

/-- A response that states an absence. -/
def isNegative (response : Message) : Bool :=
  response.responseCode == nameError ||
    (response.responseCode == noError && response.answers.isEmpty)

/-- A response that may be kept at all. -/
def isKeepable (response : Message) : Bool :=
  !response.header.truncated && !response.questions.isEmpty &&
    (response.responseCode == noError || response.responseCode == nameError)

/-- The lifetime that the records of a response give it, before the bounds. -/
def ownLifetime (policy : LifetimePolicy) (response : Message) : Option Duration :=
  if response.isNegative then
    match response.authorities.findSome? Record.negativeLifetime? with
    | some ttl => some (seconds ttl.toNat)
    | none => some policy.negative
  else
    ((response.records.map fun record => record.ttl.toNat).min?).map seconds

def lifetime? (policy : LifetimePolicy) (response : Message) : Option Duration := do
  if !response.isKeepable then none
  let own ← response.ownLifetime policy
  let bounded := min (max own policy.lowest) policy.highest
  if bounded = 0 then none else some bounded

/-- What a kept response becomes when it answers `request` after `elapsed`. -/
def aged (elapsed : Duration) (request kept : Message) : Message :=
  { kept with
    header := { kept.header with id := request.header.id }
    questions := request.questions
    answers := kept.answers.map (Record.aged elapsed)
    authorities := kept.authorities.map (Record.aged elapsed)
    additionals := kept.additionals.map (Record.aged elapsed) }

def age (kept : Bytes) (elapsed : Duration) (request : Message) : Except Fault Bytes :=
  match decode? kept with
  | none => .error .undecodable
  | some message =>
    match (aged elapsed request message).encode? with
    | none => .error .unencodable
    | some bytes => .ok bytes

end Message

end DnsForwarder
