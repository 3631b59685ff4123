import DnsForwarder.Fault
import DnsForwarder.Message.Wire

/-!
# Fitting a response into a client's buffer

A client says in its OPT record how large a datagram it takes; without one, or
when it says less, it has to take 512 bytes.  A response that is too large is
replaced by its header, questions and OPT record with the truncation flag set,
which tells the client to ask again over a transport without that limit.
-/

namespace DnsForwarder.Message

/-- The largest response the sender of a request takes. -/
def payloadLimit (request : Message) : Nat :=
  match request.edns with
  | some edns => max edns.payload.toNat smallestPayload
  | none => smallestPayload

/-- The message without its records, marked as a truncated response. -/
def shortened (message : Message) : Message :=
  { message with
    header := { message.header with response := true, truncated := true }
    answers := []
    authorities := []
    additionals := [] }

/-- A response that fits stays as it is, readable or not. -/
def truncateFor (limit : Nat) (response : Bytes) : Except Fault Bytes :=
  if response.length ≤ limit then .ok response
  else
    match decode? response with
    | none => .error .undecodable
    | some message =>
      match message.shortened.encode? with
      | none => .error .unencodable
      | some bytes => .ok bytes

end DnsForwarder.Message
