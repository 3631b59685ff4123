import DnsForwarder.Proofs.Resolver.Paths

/-!
# Requests handled one behind the other

`handleAll` handles a list of requests, each of them without interruption, and
answers what came of each: the reply, and whether it had to be shortened.  The
latter is read off the counter of shortened responses.

What a request that is forwarded gets as its reply does not depend on what the
requests share (`Action.Blind.run_eq`, `forward_blind`); only the lookup does.  What
it leaves in the cache is described by `stored_handle`.
-/

namespace DnsForwarder

/-! ## Actions that look nothing up -/

namespace Action

variable {Result : Type}

/-- No outcome of any step lets the action look into the cache. -/
def Blind : Action Result → Prop
  | done _ => True
  | count _ next => next.Blind
  | lookup _ _ => False
  | forget _ next => next.Blind
  | keep _ _ _ next => next.Blind
  | ask _ next => ∀ answer, (next answer).Blind
  | send _ next => ∀ sent, (next sent).Blind

theorem Quiet.blind {action : Action Result} (h : action.Quiet) : action.Blind := by
  induction action with
  | done result => trivial
  | count counter next ih => exact ih h
  | _ => exact h.elim

/-- The result of such an action does not depend on what is shared. -/
theorem Blind.run_eq {action : Action Result} (h : action.Blind) (around : Surroundings)
    (shared other : Shared) : (action.run around shared).1 = (action.run around other).1 := by
  induction action generalizing shared other with
  | done result => rfl
  | count counter next ih => exact ih h _ _
  | lookup key next ih => exact h.elim
  | forget key next ih => exact ih h _ _
  | keep key data lifetime next ih => exact ih h _ _
  | ask query next ih => exact ih _ (h _) _ _
  | send reply next ih => exact ih _ (h _) _ _

/-- No step changes which call on the cache fails. -/
theorem run_failing (action : Action Result) (around : Surroundings) (shared : Shared) :
    (action.run around shared).2.1.failing = shared.failing := by
  induction action generalizing shared with
  | done result => rfl
  | count counter next ih => exact ih _
  | lookup key next ih => exact ih _ _
  | forget key next ih =>
      refine (ih _).trans ?_
      unfold Shared.forget
      split <;> rfl
  | keep key data lifetime next ih =>
      refine (ih _).trans ?_
      unfold Shared.keep
      split <;> rfl
  | ask query next ih => exact ih _ _
  | send reply next ih => exact ih _ _

/-- A cache that is disabled stays so. -/
theorem run_disabled (action : Action Result) (around : Surroundings) {shared : Shared}
    (h : shared.cache = .disabled) : (action.run around shared).2.1.cache = .disabled := by
  induction action generalizing shared with
  | done result => exact h
  | count counter next ih => exact ih h
  | lookup key next ih => exact ih _ h
  | forget key next ih =>
      refine ih ?_
      unfold Shared.forget
      split
      · exact h
      · simp [h, Cache.remove]
  | keep key data lifetime next ih =>
      refine ih ?_
      unfold Shared.keep
      split
      · exact h
      · simp [h, Cache.insert]
  | ask query next ih => exact ih _ h
  | send reply next ih => exact ih _ h

end Action

theorem Shared.lookup_disabled {shared : Shared} (h : shared.cache = .disabled) (now : Instant)
    (key : String) (hit : Hit) : shared.lookup now key ≠ .ok (some hit) := by
  unfold Shared.lookup
  split
  · simp
  · simp [h, Cache.get, Cache.stored?]

namespace Resolver

/-- What came of a request. -/
structure Handled where
  reply : Option Bytes
  /-- The response was too large for the client, and a shortened one was sent. -/
  shortened : Bool
deriving DecidableEq, Repr

/-- Handles one request without interruption. -/
def handleOne (options : Options) (around : Surroundings) (shared : Shared) (request : Bytes) :
    Handled × Shared :=
  let (reply, after, _) := (handle options request).run around shared
  (⟨reply, after.metrics.truncatedResponses != shared.metrics.truncatedResponses⟩, after)

/-- Handles requests one behind the other, each at the time that is given with it. -/
def handleAll (options : Options) (remote : Bytes → Except Fault Bytes) :
    Shared → List (Instant × Bytes) → List Handled
  | _, [] => []
  | shared, (now, request) :: rest =>
    let (handled, after) := handleOne options { now, remote } shared request
    handled :: handleAll options remote after rest

variable {options : Options} {request : Bytes} {around : Surroundings} {shared : Shared}

/-! ## Replies of forwarded requests -/

theorem forward_blind (options : Options) (request : Bytes) (query : Option Message)
    (key : Option String) : (forward options request query key).Blind := by
  intro answer
  dsimp only
  split
  · exact (refuse_quiet options request).blind
  · rename_i response haccepted
    have hfit := (fit_quiet options request query response).blind
    rcases keepResponse_cases options key response (fit options request query response) with
      hnot | ⟨name, lifetime, _, _, hkept⟩
    · rw [hnot]
      exact hfit
    · rw [hkept]
      exact hfit

/-- A request with a key is handled as the lookup says. -/
theorem run_of_keyed {query : Message} {key : String}
    (hquery : Message.decode? request = some query) (hkey : Cache.requestKey? query = some key) :
    ((handle options request).run around shared).1 =
        ((afterLookup options request query key (shared.lookup around.now key)).run around
          (shared.count .received)).1 ∧
      ((handle options request).run around shared).2.1 =
        ((afterLookup options request query key (shared.lookup around.now key)).run around
          (shared.count .received)).2.1 := by
  rw [handle_of_keyed hquery hkey]
  exact ⟨rfl, rfl⟩

/-- A request that is not answered from the cache gets the reply that forwarding it
gives, whatever is shared. -/
theorem reply_of_forwarded {query : Message} {key : String}
    (hquery : Message.decode? request = some query) (hkey : Cache.requestKey? query = some key)
    (hnot : ∀ hit reply, shared.lookup around.now key = .ok (some hit) →
      Message.age hit.data hit.age query ≠ .ok reply) (other : Shared) :
    (handleOne options around shared request).1.reply =
      ((forward options request (some query) (some key)).run around other).1 := by
  have hforward := (forward_blind options request (some query) (some key)).run_eq around
  refine (run_of_keyed hquery hkey).1.trans ?_
  unfold afterLookup
  split
  · rename_i hit hlookup
    split
    · rename_i reply hage
      exact absurd hage (hnot hit reply hlookup)
    · exact hforward _ other
  · exact hforward _ other

/-! ## Fitting -/

theorem fit_of_le {query : Message} {response : Bytes}
    (h : response.length ≤ replyLimit options query) :
    fit options request (some query) response = .done (some response) :=
  if_pos h

theorem fit_of_truncateFor {query : Message} {response shortened : Bytes}
    (hlong : ¬ response.length ≤ replyLimit options query)
    (h : Message.truncateFor (replyLimit options query) response = .ok shortened) :
    fit options request (some query) response = .count .truncated (.done (some shortened)) := by
  rw [fit, if_neg hlong, h]

/-! ## What is kept -/

theorem metrics_keep (shared : Shared) (now : Instant) (key : String) (data : Bytes)
    (lifetime : Duration) : (shared.keep now key data lifetime).metrics = shared.metrics := by
  unfold Shared.keep
  split <;> rfl

theorem stored_keep {now : Instant} {key name : String} {data : Bytes} {lifetime : Duration}
    {entry : Entry} (h : (shared.keep now key data lifetime).cache.stored? name = some entry) :
    shared.cache.stored? name = some entry ∨ key = name ∧ entry.data = data := by
  have hstep := @Action.step_stored Unit (.keep key data lifetime (.done ()))
    { now, remote := fun query => .ok query } shared name entry h
  rcases hstep with hold | ⟨next, hnext, _⟩
  · exact Or.inl hold
  · cases hnext
    exact Or.inr ⟨rfl, rfl⟩

theorem stored_forget {key name : String} {entry : Entry}
    (h : (shared.forget key).cache.stored? name = some entry) :
    shared.cache.stored? name = some entry := by
  have hstep := @Action.step_stored Unit (.forget key (.done ()))
    { now := 0, remote := fun query => .ok query } shared name entry h
  rcases hstep with hold | ⟨next, hnext, _⟩
  · exact hold
  · cases hnext

/-- A forwarded request whose response is accepted has the response kept, if it may
be, and then fitted. -/
theorem run_forward {query : Option Message} {key : Option String} {response : Bytes}
    (haccepted : acceptAnswer request (around.remote request) = .ok response) :
    ∃ after : Shared, after.metrics = shared.metrics ∧
      ((forward options request query key).run around shared).1 =
        ((fit options request query response).run around after).1 ∧
      ((forward options request query key).run around shared).2.1 =
        ((fit options request query response).run around after).2.1 ∧
      (after.cache = shared.cache ∨ ∃ name lifetime, key = some name ∧
        (Message.decode? response).bind (Message.lifetime? options.lifetimes) = some lifetime ∧
        after = shared.keep around.now name response lifetime) := by
  simp only [forward, Action.run, haccepted]
  rcases keepResponse_cases options key response (fit options request query response) with
    hnot | ⟨name, lifetime, rfl, hlasting, hkept⟩
  · rw [hnot]
    exact ⟨shared, rfl, rfl, rfl, Or.inl rfl⟩
  · rw [hkept]
    exact ⟨shared.keep around.now name response lifetime, metrics_keep _ _ _ _ _, rfl, rfl,
      Or.inr ⟨name, lifetime, rfl, hlasting, rfl⟩⟩

theorem stored_forward {query : Option Message} {key : Option String} {name : String}
    {entry : Entry}
    (h : ((forward options request query key).run around shared).2.1.cache.stored? name =
      some entry) :
    shared.cache.stored? name = some entry ∨ key = some name ∧
      acceptAnswer request (around.remote request) = .ok entry.data ∧
      ∃ message, Message.decode? entry.data = some message := by
  cases haccepted : acceptAnswer request (around.remote request) with
  | error fault =>
      simp only [forward, Action.run, haccepted] at h
      rw [(refuse_quiet options request).cache_run] at h
      exact Or.inl h
  | ok response =>
      obtain ⟨after, _, _, hafter, hkept⟩ := @run_forward options request around shared query key
        response haccepted
      rw [hafter, (fit_quiet options request query response).cache_run] at h
      rcases hkept with hsame | ⟨key, lifetime, rfl, hlasting, rfl⟩
      · exact Or.inl (hsame ▸ h)
      · rcases stored_keep h with hold | ⟨rfl, hdata⟩
        · exact Or.inl hold
        · obtain ⟨message, hmessage, _⟩ := Option.bind_eq_some_iff.mp hlasting
          exact Or.inr ⟨rfl, by rw [hdata], message, by rw [hdata, hmessage]⟩

/-- An entry that is in the cache after a request was there before, or it holds the
response to this request. -/
theorem stored_handle {name : String} {entry : Entry}
    (h : ((handle options request).run around shared).2.1.cache.stored? name = some entry) :
    shared.cache.stored? name = some entry ∨
      ∃ query message, Message.decode? request = some query ∧
        Cache.requestKey? query = some name ∧
        acceptAnswer request (around.remote request) = .ok entry.data ∧
        Message.decode? entry.data = some message := by
  rcases handle_cases options request with hpath | ⟨query, _, hpath⟩ |
    ⟨query, key, hquery, hkey, _⟩
  · rw [hpath] at h
    exact Or.inl h
  · rw [hpath] at h
    rcases stored_forward h with hold | ⟨hkey, _⟩
    · exact Or.inl hold
    · cases hkey
  · have hforwarded : ∀ before : Shared,
        (before.cache.stored? name = some entry → shared.cache.stored? name = some entry) →
        ((forward options request (some query) (some key)).run around
          before).2.1.cache.stored? name = some entry →
        shared.cache.stored? name = some entry ∨
          ∃ asked message, Message.decode? request = some asked ∧
            Cache.requestKey? asked = some name ∧
            acceptAnswer request (around.remote request) = .ok entry.data ∧
            Message.decode? entry.data = some message := by
      intro before hbefore h
      rcases stored_forward h with hold | ⟨hname, haccepted, message, hmessage⟩
      · exact Or.inl (hbefore hold)
      · cases hname
        exact Or.inr ⟨query, message, hquery, hkey, haccepted, hmessage⟩
    rw [(run_of_keyed hquery hkey).2] at h
    unfold afterLookup at h
    split at h
    · split at h
      · rename_i response _
        simp only [Action.run] at h
        rw [(fit_quiet options request (some query) response).cache_run] at h
        exact Or.inl h
      · exact hforwarded (((shared.count .received).forget key).count .cacheMiss)
          (@stored_forget (shared.count .received) key name entry) h
    · exact hforwarded ((shared.count .received).count .cacheMiss) id h

/-! ## Replies that have a response -/

/-- The reply is the whole response if that fits, and is counted as shortened if it does
not fit but can be shortened. -/
structure Fitted (options : Options) (query : Message) (response : Bytes) (handled : Handled) :
    Prop where
  whole : response.length ≤ replyLimit options query → handled = ⟨some response, false⟩
  shortened : ¬ response.length ≤ replyLimit options query →
    (∃ reply, Message.truncateFor (replyLimit options query) response = .ok reply) →
      handled.shortened = true

/-- Handling that comes down to fitting a response, after some other counting. -/
theorem fitted_of_run {query : Message} {response : Bytes} {counter : Counter} {before : Shared}
    (hcounter : counter ≠ .truncated)
    (hmetrics : before.metrics = (shared.metrics.count .received).count counter)
    (hreply : ((handle options request).run around shared).1 =
      ((fit options request (some query) response).run around before).1)
    (hafter : ((handle options request).run around shared).2.1 =
      ((fit options request (some query) response).run around before).2.1) :
    Fitted options query response (handleOne options around shared request).1 := by
  refine ⟨fun hfits => ?_, fun hlong hshort => ?_⟩
  · rw [fit_of_le hfits] at hreply hafter
    have hcounted : ((handle options request).run around shared).2.1.metrics =
        (shared.metrics.count .received).count counter := by
      rw [hafter]
      exact hmetrics
    simp only [handleOne, hreply, hcounted]
    cases counter <;> simp_all [Action.run, Metrics.count]
  · obtain ⟨reply, hshortened⟩ := hshort
    rw [fit_of_truncateFor hlong hshortened] at hafter
    have hcounted : ((handle options request).run around shared).2.1.metrics =
        ((shared.metrics.count .received).count counter).count .truncated := by
      rw [hafter]
      exact congrArg (Metrics.count · .truncated) hmetrics
    change (((handle options request).run around shared).2.1.metrics.truncatedResponses !=
      shared.metrics.truncatedResponses) = true
    rw [hcounted]
    cases counter <;> simp_all [Metrics.count]

/-- A request that is answered from the cache. -/
theorem fitted_of_hit {query : Message} {key : String} {hit : Hit} {response : Bytes}
    (hquery : Message.decode? request = some query) (hkey : Cache.requestKey? query = some key)
    (hlookup : shared.lookup around.now key = .ok (some hit))
    (hage : Message.age hit.data hit.age query = .ok response) :
    Fitted options query response (handleOne options around shared request).1 := by
  obtain ⟨hreply, hafter⟩ := @run_of_keyed options request around shared _ _ hquery hkey
  simp only [hlookup, afterLookup, hage] at hreply hafter
  have hcounter : Counter.cacheHit ≠ .truncated := by decide
  exact fitted_of_run hcounter rfl hreply hafter

/-- A request that is not, and whose response is accepted. -/
theorem fitted_of_miss {query : Message} {key : String} {response : Bytes}
    (hquery : Message.decode? request = some query) (hkey : Cache.requestKey? query = some key)
    (hlookup : ∀ hit, shared.lookup around.now key ≠ .ok (some hit))
    (haccepted : acceptAnswer request (around.remote request) = .ok response) :
    Fitted options query response (handleOne options around shared request).1 := by
  obtain ⟨hreply, hafter⟩ := @run_of_keyed options request around shared _ _ hquery hkey
  rw [afterLookup_of_not_hit hlookup] at hreply hafter
  obtain ⟨before, hmetrics, hforwardReply, hforwardAfter, _⟩ := @run_forward options request around
    ((shared.count .received).count .cacheMiss) (some query) (some key) response haccepted
  have hcounter : Counter.cacheMiss ≠ .truncated := by decide
  exact fitted_of_run hcounter hmetrics (hreply.trans hforwardReply) (hafter.trans hforwardAfter)

/-! ## A second request with the same key -/

/-- What is kept for a request that finds nothing. -/
theorem cache_missed {query : Message} {key : String} {data : Bytes} {lifetime : Duration}
    (hquery : Message.decode? request = some query) (hkey : Cache.requestKey? query = some key)
    (hmiss : ∀ hit, shared.lookup around.now key ≠ .ok (some hit))
    (haccepted : acceptAnswer request (around.remote request) = .ok data)
    (hlasting : (Message.decode? data).bind (Message.lifetime? options.lifetimes) =
      some lifetime) :
    ((handle options request).run around shared).2.1.cache =
      (shared.keep around.now key data lifetime).cache := by
  refine (congrArg Shared.cache (run_of_keyed hquery hkey).2).trans ?_
  rw [afterLookup_of_not_hit hmiss]
  simp only [Action.run, forward, haccepted, keepResponse, hlasting]
  rw [(fit_quiet options request (some query) data).cache_run]
  -- the counters make no difference
  by_cases hfails : shared.failing = some .insert <;> simp [Shared.keep, Shared.count, hfails]

/-- What is kept for a first request. -/
theorem cache_first {query : Message} {key : String} {data : Bytes} {lifetime : Duration}
    (hquery : Message.decode? request = some query) (hkey : Cache.requestKey? query = some key)
    (haccepted : acceptAnswer request (around.remote request) = .ok data)
    (hlasting : (Message.decode? data).bind (Message.lifetime? options.lifetimes) =
      some lifetime) :
    (handleOne options around { cache := .emptyMemory } request).2.cache =
      .memory [(key, ⟨data, around.now, lifetime⟩)] :=
  cache_missed hquery hkey nofun haccepted hlasting

/-- What was kept for a first request is found for the next one with its key. -/
theorem lookup_second {query : Message} {key : String} {data : Bytes} {lifetime : Duration}
    (hquery : Message.decode? request = some query) (hkey : Cache.requestKey? query = some key)
    (haccepted : acceptAnswer request (around.remote request) = .ok data)
    (hlasting : (Message.decode? data).bind (Message.lifetime? options.lifetimes) =
      some lifetime) (hlives : lifetime ≠ 0) :
    (handleOne options around { cache := .emptyMemory } request).2.lookup around.now key =
      .ok (some ⟨data, 0⟩) := by
  have hworking : (handleOne options around { cache := .emptyMemory } request).2.failing = none :=
    Action.run_failing _ around _
  have hcache := @cache_first options request around query key data lifetime hquery hkey
    haccepted hlasting
  rw [Shared.lookup, hworking, hcache]
  simp [Cache.get, Cache.stored?, Entry.expired, Entry.age, Option.filter, hlives]

/-! ## Requests for one name -/

/-- A request for the records of type `kind` of the name `a.`. -/
def typeRequest (id kind : UInt8) : Bytes :=
  [0, id, 1, 0, 0, 1, 0, 0, 0, 0, 0, 0, 1, 97, 0, 0, kind, 0, 1]

def typeQuestion (kind : UInt16) : Question := ⟨.letter, ⟨kind⟩, ⟨1⟩⟩

def typeQuery (id kind : UInt16) : Message where
  header := .asking id
  questions := [typeQuestion kind]
  answers := []
  authorities := []
  additionals := []
  edns := none

/-- The key of such a request. -/
def typeKey (kind : UInt16) : String := Cache.questionKey (typeQuestion kind) false false false

def wideOptions : Options where
  largestPayload := 4096
  lifetimes := ⟨0, seconds 86400, seconds 300⟩

end Resolver

end DnsForwarder
