import DnsForwarder.Cache.Store

/-!
# Stores that let entries go

The memory cache may keep its entries in a store that lets each of them go by itself.
Whenever such a store takes in an entry it asks how long the entry may stay
(`Expiry`), and no longer shows it when that time is over.  `entryExpiry` gives an
entry what is left of its lifetime, so an entry that comes in late stays shorter.

What a store does inside is its own business.  `ExpiringStore.Obeys` says what it has to
answer, as long as it is not short of room.
-/

namespace DnsForwarder.Cache

/-- How long an entry may stay that comes in; without a time it stays until it is taken
out. -/
structure Expiry where
  /-- For an entry under a key that has none. -/
  onCreate (key : String) (entry : Entry) (now : Instant) : Option Duration
  /-- For an entry that takes the place of another one, which had `left` to stay. -/
  onUpdate (key : String) (entry : Entry) (now : Instant) (left : Option Duration) :
    Option Duration

/-- What is left of the lifetime of an entry. -/
def entryExpiry : Expiry where
  onCreate _ entry now := some (entry.lifetime - entry.age now)
  onUpdate _ entry now _ := some (entry.lifetime - entry.age now)

/-- The times that a store may give an entry when it shows `shown` under the key.  One
that shows nothing may still hold an entry that is over, and replace that. -/
inductive Expiry.Grants (expiry : Expiry) (key : String) (entry : Entry) (now : Instant) :
    Option Entry → Option Duration → Prop
  | created : Grants expiry key entry now none (expiry.onCreate key entry now)
  | replaced (shown : Option Entry) (left : Option Duration) :
    Grants expiry key entry now shown (expiry.onUpdate key entry now left)

/-- A store of entries.  Asking it for an entry may change it, as it may clear up. -/
structure ExpiringStore (State : Type) where
  start : State
  get (state : State) (now : Instant) (key : String) : Option Entry × State
  insert (state : State) (now : Instant) (key : String) (entry : Entry) : State
  invalidate (state : State) (now : Instant) (key : String) : State
  invalidateAll (state : State) (now : Instant) : State

namespace ExpiringStore

variable {State : Type}

/-- What the store answers if nothing else happens before. -/
def shown (store : ExpiringStore State) (state : State) (now : Instant) (key : String) :
    Option Entry :=
  (store.get state now key).1

/-- The store answers with the entry that came in last, until it is taken out or the time
that `expiry` gave it is over. -/
structure Obeys (store : ExpiringStore State) (expiry : Expiry) : Prop where
  start (now : Instant) (key : String) : store.shown store.start now key = none
  get (state : State) {now later : Instant} (asked key : String) (hle : now ≤ later) :
    store.shown (store.get state now asked).2 later key = store.shown state later key
  insert (state : State) (now : Instant) (key : String) (entry : Entry) :
    ∃ stay, expiry.Grants key entry now (store.shown state now key) stay ∧
      ∀ later, now ≤ later → store.shown (store.insert state now key entry) later key =
        if stay.all fun span => later < now + span then some entry else none
  insertOther (state : State) {now later : Instant} {key other : String} (entry : Entry)
    (hother : other ≠ key) (hle : now ≤ later) :
    store.shown (store.insert state now key entry) later other = store.shown state later other
  invalidate (state : State) {now later : Instant} (key other : String) (hle : now ≤ later) :
    store.shown (store.invalidate state now key) later other =
      if other = key then none else store.shown state later other
  invalidateAll (state : State) {now later : Instant} (key : String) (hle : now ≤ later) :
    store.shown (store.invalidateAll state now) later key = none

/-- The memory cache over a store: an entry that is over is not handed on, even if the
store still shows it. -/
def lookup (store : ExpiringStore State) (state : State) (now : Instant) (key : String) :
    Option Entry × State :=
  let (found, state) := store.get state now key
  (found.filter fun entry => !entry.expired now, state)

end ExpiringStore

/-! ## A store with deadlines -/

/-- Entries, each with the time when it is over. -/
abbrev Deadlines := List (String × Entry × Option Instant)

namespace Deadlines

def find? (held : Deadlines) (now : Instant) (key : String) : Option Entry :=
  match held.lookup key with
  | some (entry, deadline) => if deadline.all fun time => now < time then some entry else none
  | none => none

def drop (held : Deadlines) (key : String) : Deadlines := held.filter fun kept => kept.1 != key

def keep (held : Deadlines) (key : String) (entry : Entry) (deadline : Option Instant) :
    Deadlines :=
  (key, entry, deadline) :: held.drop key

/-- How long an entry may stay that comes in now. -/
def stay (expiry : Expiry) (held : Deadlines) (now : Instant) (key : String) (entry : Entry) :
    Option Duration :=
  match held.lookup key with
  | some (_, deadline) => expiry.onUpdate key entry now (deadline.map fun time => time - now)
  | none => expiry.onCreate key entry now

/-- The store that shows its entries until their deadlines. -/
def store (expiry : Expiry) : ExpiringStore Deadlines where
  start := []
  get held now key := (held.find? now key, held)
  insert held now key entry :=
    held.keep key entry ((stay expiry held now key entry).map fun span => now + span)
  invalidate held _ key := held.drop key
  invalidateAll _ _ := []

end Deadlines

/-! ## Operations -/

inductive Operation
  | insert (key : String) (entry : Entry)
  | get (key : String)
  | remove (key : String)
  | clear
deriving DecidableEq, Repr

/-- The answer to an operation, if it asks for an entry, and the cache behind it. -/
def perform (cache : Cache) (now : Instant) : Operation → Option Entry × Cache
  | .insert key entry => (none, cache.insert key entry)
  | .get key => (cache.get now key, cache)
  | .remove key => (none, cache.remove key)
  | .clear => (none, cache.clear)

def ExpiringStore.perform {State : Type} (store : ExpiringStore State) (state : State)
    (now : Instant) : Operation → Option Entry × State
  | .insert key entry => (none, store.insert state now key entry)
  | .get key => store.lookup state now key
  | .remove key => (none, store.invalidate state now key)
  | .clear => (none, store.invalidateAll state now)

end DnsForwarder.Cache
