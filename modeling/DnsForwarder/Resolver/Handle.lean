import DnsForwarder.Cache.Key
import DnsForwarder.Datagram
import DnsForwarder.Message.Fit
import DnsForwarder.Message.Lifetime
import DnsForwarder.Resolver.Action

/-!
# Handling one request

A request is answered from the cache if it has a key and a response is kept
under it; otherwise it goes to the remote server as it came, and what comes
back is kept if it may be.  Either way the reply is fitted into the client's
buffer.  A request that cannot be read is forwarded all the same, without cache
and without fitting; only what is too short for a header gets no reply.
-/

namespace DnsForwarder.Resolver

structure Options where
  /-- Answer "server failure" when the remote server fails, instead of staying
  silent. -/
  refuseOnError : Bool := true
  /-- The largest response that is sent, whatever the client takes. -/
  largestPayload : Nat
  lifetimes : LifetimePolicy
deriving DecidableEq, Repr

/-- The reply to a request that could not be served. -/
def refuse (options : Options) (request : Bytes) : Action (Option Bytes) :=
  if options.refuseOnError then
    match Datagram.refusal request with
    | .ok reply => .count .refusal (.done (some reply))
    | .error _ => .done none
  else .done none

/-- The largest response for the sender of `query`. -/
def replyLimit (options : Options) (query : Message) : Nat :=
  min query.payloadLimit options.largestPayload

/-- Replies with `response`, shortened if it is too large for the client. -/
def fit (options : Options) (request : Bytes) (query : Option Message) (response : Bytes) :
    Action (Option Bytes) :=
  match query with
  | none => .done (some response)
  | some query =>
    let limit := replyLimit options query
    if response.length ≤ limit then .done (some response)
    else
      match Message.truncateFor limit response with
      | .ok shortened => .count .truncated (.done (some shortened))
      | .error _ => refuse options request

/-- Keeps `response` under `key` if it may be kept. -/
def keepResponse (options : Options) (key : Option String) (response : Bytes)
    (next : Action (Option Bytes)) : Action (Option Bytes) :=
  match key with
  | none => next
  | some key =>
    match (Message.decode? response).bind (Message.lifetime? options.lifetimes) with
    | none => next
    | some lifetime => .keep key response lifetime next

/-- The response as the client gets it: with the ID of its request, whatever ID
came back.  What is shorter than a header is no response. -/
def acceptAnswer (request : Bytes) (answer : Except Fault Bytes) : Except Fault Bytes := do
  let id ← Datagram.id request
  let response ← answer
  if response.length < Datagram.headerLength then throw (.answerTooShort response.length)
  Datagram.withId id response

/-- Asks the remote server. -/
def forward (options : Options) (request : Bytes) (query : Option Message)
    (key : Option String) : Action (Option Bytes) :=
  .ask request fun answer =>
    match acceptAnswer request answer with
    | .error _ => .count .remoteError (refuse options request)
    | .ok response => keepResponse options key response (fit options request query response)

/-- Handles one datagram; the result is the datagram to send back, if any. -/
def handle (options : Options) (request : Bytes) : Action (Option Bytes) :=
  .count .received <|
    if request.length < Datagram.headerLength then .count .malformed (.done none)
    else
      match Message.decode? request with
      | none => forward options request none none
      | some query =>
        match Cache.requestKey? query with
        | none => forward options request (some query) none
        | some key =>
          let miss := .count .cacheMiss (forward options request (some query) (some key))
          .lookup key fun
            | .ok (some hit) =>
              match Message.age hit.data hit.age query with
              | .ok response => .count .cacheHit (fit options request (some query) response)
              | .error _ => .forget key miss
            | _ => miss

end DnsForwarder.Resolver
