import DnsForwarder.Cache.Store
import DnsForwarder.Resolver.Metrics

/-!
# What handling a request does, step by step

An action is a tree.  Each node is one step on what the requests share (the
cache, the counters, the remote server, the client's socket) and holds, for each
outcome of that step, how it goes on.  Several requests are handled at once by
taking steps from their trees in any order, so a step is what cannot be divided.

`Action.run` takes all steps of one action, one behind the other, and records
those that others can see.
-/

namespace DnsForwarder

/-- A kept response with its age at the time it was found. -/
structure Hit where
  data : Bytes
  age : Duration
deriving DecidableEq, Repr

inductive Action (Result : Type) where
  | done (result : Result)
  | count (counter : Counter) (next : Action Result)
  | lookup (key : String) (next : Except Fault (Option Hit) → Action Result)
  | forget (key : String) (next : Action Result)
  | keep (key : String) (data : Bytes) (lifetime : Duration) (next : Action Result)
  | ask (query : Bytes) (next : Except Fault Bytes → Action Result)
  | send (reply : Bytes) (next : Bool → Action Result)

namespace Action

variable {Result Other : Type}

def bind (action : Action Result) (next : Result → Action Other) : Action Other :=
  match action with
  | done result => next result
  | count counter rest => count counter (rest.bind next)
  | lookup key rest => lookup key fun found => (rest found).bind next
  | forget key rest => forget key (rest.bind next)
  | keep key data lifetime rest => keep key data lifetime (rest.bind next)
  | ask query rest => ask query fun answer => (rest answer).bind next
  | send reply rest => send reply fun sent => (rest sent).bind next

end Action

/-- The calls on the cache. -/
inductive CacheCall
  | get
  | insert
  | remove
deriving DecidableEq, Repr

/-- What the requests of one resolver share. -/
structure Shared where
  cache : Cache
  metrics : Metrics := .zero
  /-- The call on the cache that fails for the time being; failing changes
  nothing. -/
  failing : Option CacheCall := none

/-- What surrounds a request while it takes a step. -/
structure Surroundings where
  now : Instant
  /-- What the remote server makes of a query. -/
  remote : Bytes → Except Fault Bytes
  /-- Whether a reply of this size leaves the socket. -/
  sends : Bytes → Bool := fun _ => true

inductive Event
  | found (key : String)
  | missed (key : String)
  | lookupFailed (key : String)
  | forgot (key : String)
  | kept (key : String) (data : Bytes) (lifetime : Duration)
  | asked (query : Bytes)
deriving DecidableEq, Repr

namespace Shared

def count (shared : Shared) (counter : Counter) : Shared :=
  { shared with metrics := shared.metrics.count counter }

def lookup (shared : Shared) (now : Instant) (key : String) : Except Fault (Option Hit) :=
  if shared.failing = some .get then
    .error (.reported ⟨.internal, "cache unavailable", false⟩)
  else
    .ok ((shared.cache.get now key).map fun entry => ⟨entry.data, entry.age now⟩)

def lookupEvent (key : String) : Except Fault (Option Hit) → Event
  | .ok (some _) => .found key
  | .ok none => .missed key
  | .error _ => .lookupFailed key

def forget (shared : Shared) (key : String) : Shared :=
  if shared.failing = some .remove then shared
  else { shared with cache := shared.cache.remove key }

def keep (shared : Shared) (now : Instant) (key : String) (data : Bytes)
    (lifetime : Duration) : Shared :=
  if shared.failing = some .insert then shared
  else { shared with cache := shared.cache.insert key ⟨data, now, lifetime⟩ }

end Shared

namespace Action

variable {Result : Type}

/-- One step of an action, with what others see of it. -/
def step (around : Surroundings) (shared : Shared) :
    Action Result → Action Result × Shared × List Event
  | done result => (done result, shared, [])
  | count counter next => (next, shared.count counter, [])
  | lookup key next =>
    let found := shared.lookup around.now key
    (next found, shared, [Shared.lookupEvent key found])
  | forget key next => (next, shared.forget key, [.forgot key])
  | keep key data lifetime next =>
    (next, shared.keep around.now key data lifetime, [.kept key data lifetime])
  | ask query next => (next (around.remote query), shared, [.asked query])
  | send reply next => (next (around.sends reply), shared, [])

/-- Takes all steps, in surroundings that stay the same. -/
def run (around : Surroundings) (shared : Shared) :
    Action Result → Result × Shared × List Event
  | done result => (result, shared, [])
  | count counter next => next.run around (shared.count counter)
  | lookup key next =>
    let found := shared.lookup around.now key
    let (result, after, events) := (next found).run around shared
    (result, after, Shared.lookupEvent key found :: events)
  | forget key next =>
    let (result, after, events) := next.run around (shared.forget key)
    (result, after, .forgot key :: events)
  | keep key data lifetime next =>
    let (result, after, events) := next.run around (shared.keep around.now key data lifetime)
    (result, after, .kept key data lifetime :: events)
  | ask query next =>
    let (result, after, events) := (next (around.remote query)).run around shared
    (result, after, .asked query :: events)
  | send reply next => (next (around.sends reply)).run around shared

end Action

end DnsForwarder
