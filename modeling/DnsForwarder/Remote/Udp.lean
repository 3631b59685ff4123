import DnsForwarder.Datagram
import DnsForwarder.Net.Address

/-!
# Asking over UDP

All queries share one socket.  A query that is under way is registered under a
transaction ID that no other one has, and is sent with that ID; a response is
handed to the query that is registered under its ID.

What several calls and the receiver do at the same time is a sequence of steps
that cannot be divided: a call registers, sends, takes what was handed to it, runs
out of time, and on leaving without a response takes its ID out of the register;
the receiver takes the call for an arriving datagram out of the register and, as a
step of its own, hands the datagram over.

## Strategy

`Client.step` is one such step, and gives nothing if the step is not possible.  A
history of the client is a list of steps, so what holds after every step holds in
every history.  A call knows only its ID: leaving takes whatever is registered
under that ID out of the register.
-/

namespace DnsForwarder.Udp

/-- What the receiver has left for a call. -/
inductive Channel
  | awaiting
  | filled (datagram : Bytes)
  /-- The call was taken out of the register, so nothing will come any more. -/
  | closed
deriving DecidableEq, Repr

inductive Stage
  /-- The query is not sent yet. -/
  | registered
  | waiting
  /-- The call has failed, and its ID is to be taken out of the register. -/
  | leaving (fault : Fault)
  | returned (response : Bytes)
  | failed (fault : Fault)
deriving DecidableEq, Repr

structure Call where
  query : Bytes
  /-- The ID of the query when it came. -/
  ownId : UInt16
  /-- The ID that the query is sent with. -/
  wireId : UInt16
  stage : Stage
  channel : Channel
deriving DecidableEq, Repr

namespace Call

/-- Whether a datagram that is handed over still reaches the call. -/
def listens (call : Call) : Bool :=
  match call.stage with
  | .registered | .waiting => true
  | _ => false

/-- The datagram of the query. -/
def datagram (call : Call) : Bytes :=
  match Datagram.withId call.wireId call.query with
  | .ok datagram => datagram
  | .error _ => call.query

end Call

structure Client where
  server : SocketAddress
  timeoutMilliseconds : Nat
  /-- All calls so far, the first one first. -/
  calls : List Call := []
  /-- The calls that are registered under an ID, by their places. -/
  pending : List (UInt16 × Nat) := []
  /-- A datagram between register and hand-over, with the call it is for. -/
  held : Option (Nat × Bytes) := none
  /-- What was sent, the first datagram first. -/
  wire : List Bytes := []
deriving DecidableEq, Repr

inductive Step
  /-- A call begins with this query and picks this ID. -/
  | register (query : Bytes) (wireId : UInt16)
  /-- A call sends its query, which the system may refuse. -/
  | transmit (call : Nat) (refused : Option SystemFault)
  /-- A datagram arrives. -/
  | arrive (datagram : Bytes)
  | handOver
  /-- A call takes what its channel holds. -/
  | take (call : Nat)
  /-- The time of a call is over. -/
  | expire (call : Nat)
  /-- A call that has failed takes its ID out of the register. -/
  | leave (call : Nat)
deriving DecidableEq, Repr

namespace Client

/-- How many transaction IDs there are. -/
def idCount : Nat := 65536

def isRegistered (client : Client) (id : UInt16) : Bool := (client.pending.lookup id).isSome

def changeCall (client : Client) (place : Nat) (change : Call → Call) : Client :=
  { client with calls := client.calls.modify place change }

def setStage (client : Client) (place : Nat) (stage : Stage) : Client :=
  client.changeCall place fun call => { call with stage }

def addCall (client : Client) (call : Call) : Client :=
  { client with calls := client.calls ++ [call] }

def removeId (client : Client) (id : UInt16) : Client :=
  { client with pending := client.pending.filter fun entry => entry.1 != id }

/-- Registers a new call.  A query without an ID is refused, and so is any query
while all IDs are taken. -/
def register (client : Client) (query : Bytes) (wireId : UInt16) : Option Client :=
  let begun (ownId : UInt16) (stage : Stage) : Client :=
    client.addCall { query, ownId, wireId, stage, channel := .awaiting }
  match Datagram.id query with
  | .error fault => some (begun 0 (.failed fault))
  | .ok ownId =>
    if idCount ≤ client.pending.length then some (begun ownId (.failed .idsExhausted))
    else if client.isRegistered wireId then none
    else
      some { begun ownId .registered with
        pending := client.pending ++ [(wireId, client.calls.length)] }

def transmit (client : Client) (place : Nat) (refused : Option SystemFault) : Option Client :=
  match client.calls[place]? with
  | some call =>
    match call.stage, refused with
    | .registered, none =>
      some { client.setStage place .waiting with wire := client.wire ++ [call.datagram] }
    | .registered, some cause => some (client.setStage place (.leaving (.system cause)))
    | _, _ => none
  | none => none

/-- Takes the call that an arriving response is for out of the register; any other
datagram is dropped. -/
def arrive (client : Client) (datagram : Bytes) : Option Client :=
  if client.held.isSome then none
  else if !Datagram.isResponse datagram then some client
  else
    match Datagram.id datagram with
    | .error _ => some client
    | .ok id =>
      match client.pending.lookup id with
      | none => some client
      | some place => some { client.removeId id with held := some (place, datagram) }

def handOver (client : Client) : Option Client :=
  match client.held with
  | none => none
  | some (place, datagram) =>
    some ({ client with held := none }.changeCall place fun call =>
      if call.listens then { call with channel := .filled datagram } else call)

def take (client : Client) (place : Nat) : Option Client :=
  match client.calls[place]? with
  | some call =>
    match call.stage, call.channel with
    | .waiting, .filled datagram =>
      match Datagram.withId call.ownId datagram with
      | .ok response => some (client.setStage place (.returned response))
      | .error fault => some (client.setStage place (.failed fault))
    | .waiting, .closed => some (client.setStage place (.leaving .clientStopped))
    | _, _ => none
  | none => none

/-- The time of a call can only be over while nothing has come for it. -/
def expire (client : Client) (place : Nat) : Option Client :=
  match client.calls[place]? with
  | some call =>
    match call.stage, call.channel with
    | .waiting, .awaiting =>
      some (client.setStage place
        (.leaving (.noAnswer client.server.text client.timeoutMilliseconds)))
    | _, _ => none
  | none => none

/-- Closes the channel of a call that was taken out of the register. -/
def close (client : Client) (place : Nat) : Client :=
  client.changeCall place fun call =>
    match call.channel with
    | .awaiting => { call with channel := .closed }
    | _ => call

def leave (client : Client) (place : Nat) : Option Client :=
  match client.calls[place]? with
  | some call =>
    match call.stage with
    | .leaving fault =>
      let left := (client.removeId call.wireId).setStage place (.failed fault)
      match client.pending.lookup call.wireId with
      | some holder => some (left.close holder)
      | none => some left
    | _ => none
  | none => none

def step (client : Client) : Step → Option Client
  | .register query wireId => client.register query wireId
  | .transmit call refused => client.transmit call refused
  | .arrive datagram => client.arrive datagram
  | .handOver => client.handOver
  | .take call => client.take call
  | .expire call => client.expire call
  | .leave call => client.leave call

/-- The client after a history, if that is possible. -/
def run (client : Client) : List Step → Option Client
  | [] => some client
  | step :: rest => (client.step step).bind fun client => client.run rest

/-- A client without calls. -/
def idle (server : SocketAddress) (timeoutMilliseconds : Nat) : Client :=
  { server, timeoutMilliseconds }

/-- What a call has come to. -/
def result? (client : Client) (place : Nat) : Option (Except Fault Bytes) :=
  match (client.calls[place]?).map Call.stage with
  | some (.returned response) => some (.ok response)
  | some (.failed fault) => some (.error fault)
  | _ => none

end Client

end DnsForwarder.Udp
