import DnsForwarder.Clock
import DnsForwarder.Fault

/-!
# Kept responses

An entry is a response together with the time it was stored and its lifetime.
The memory cache holds the latest entry of each key and answers with it until
its lifetime is over; the disabled cache holds nothing.  Which entry a key has
is `Cache.stored?`, and each operation is described by what it does to that.
-/

namespace DnsForwarder

/-- A response that was kept. -/
structure Entry where
  data : Bytes
  storedAt : Instant
  lifetime : Duration
deriving DecidableEq, Repr

namespace Entry

def age (entry : Entry) (now : Instant) : Duration := now - entry.storedAt

/-- An entry is over as soon as its whole lifetime has passed. -/
def expired (entry : Entry) (now : Instant) : Bool := entry.lifetime ≤ entry.age now

theorem expired_eq_false_iff {entry : Entry} {now : Instant} :
    entry.expired now = false ↔ entry.age now < entry.lifetime :=
  decide_eq_false_iff_not.trans Nat.not_le

end Entry

inductive Cache
  | memory (entries : List (String × Entry))
  | disabled
deriving DecidableEq, Repr

namespace Cache

def emptyMemory : Cache := memory []

/-- The cache that a configuration names. -/
def ofProvider (name : String) : Except Fault Cache :=
  if name = "memory" then .ok emptyMemory
  else if name = "disabled" then .ok disabled
  else .error (.unknownCacheProvider name)

/-- The entry under `key`, over or not. -/
def stored? (cache : Cache) (key : String) : Option Entry :=
  match cache with
  | memory entries => entries.lookup key
  | disabled => none

/-- The entry under `key` that still lives. -/
def get (cache : Cache) (now : Instant) (key : String) : Option Entry :=
  (cache.stored? key).filter fun entry => !entry.expired now

def remove (cache : Cache) (key : String) : Cache :=
  match cache with
  | memory entries => memory (entries.filter fun held => held.1 != key)
  | disabled => disabled

def insert (cache : Cache) (key : String) (entry : Entry) : Cache :=
  match cache with
  | memory entries => memory ((key, entry) :: entries.filter fun held => held.1 != key)
  | disabled => disabled

def clear (cache : Cache) : Cache :=
  match cache with
  | memory _ => emptyMemory
  | disabled => disabled

def size (cache : Cache) : Nat :=
  match cache with
  | memory entries => entries.length
  | disabled => 0

/-! ## What the operations do to the entries -/

theorem lookup_filter_ne {α : Type} (entries : List (String × α)) (key other : String) :
    (entries.filter fun held => held.1 != key).lookup other =
      if other = key then none else entries.lookup other := by
  induction entries with
  | nil => simp
  | cons held rest ih =>
    obtain ⟨name, entry⟩ := held
    by_cases same : name = key <;> by_cases asked : other = name <;> grind

@[simp] theorem stored?_insert (entries : List (String × Entry)) (key other : String)
    (entry : Entry) :
    ((memory entries).insert key entry).stored? other =
      if other = key then some entry else (memory entries).stored? other := by
  have rest := lookup_filter_ne entries key other
  by_cases same : other = key <;> grind [insert, stored?]

@[simp] theorem stored?_remove (cache : Cache) (key other : String) :
    (cache.remove key).stored? other = if other = key then none else cache.stored? other := by
  cases cache with
  | memory entries => exact lookup_filter_ne entries key other
  | disabled => simp [remove, stored?]

@[simp] theorem stored?_clear (cache : Cache) (key : String) : cache.clear.stored? key = none := by
  cases cache <;> rfl

end Cache

end DnsForwarder
