import DnsForwarder.Proofs.Message.Reading
import DnsForwarder.Proofs.Resolver.Traffic

/-!
# The paths of a request

A request takes one of four paths through `handle`: too short for a header,
unreadable, readable without a key, or looked up in the cache.  Each is an
equation here, so that no later proof has to open `handle` again (`handle_cases`).
What follows on a response is said by `keepResponse_cases`, `fit_cases` and
`refuse_cases`.

Taken without interruption, a request is answered from the cache exactly if the
lookup finds an entry that can be aged (`answeredFromCache_of_hit`,
`exists_hit_of_answeredFromCache`), and then others see nothing of it but that the
entry was found.
-/

namespace DnsForwarder

namespace Resolver

variable {options : Options} {request : Bytes} {query : Message} {key : String}

/-- The key of a request, if it can be read and has one. -/
def keyOf (request : Bytes) : Option String := (Message.decode? request).bind Cache.requestKey?

/-- What is done after the lookup. -/
def afterLookup (options : Options) (request : Bytes) (query : Message) (key : String) :
    Except Fault (Option Hit) → Action (Option Bytes)
  | .ok (some hit) =>
    match Message.age hit.data hit.age query with
    | .ok response => .count .cacheHit (fit options request (some query) response)
    | .error _ => .forget key (.count .cacheMiss (forward options request (some query) (some key)))
  | _ => .count .cacheMiss (forward options request (some query) (some key))

/-! ## The four paths -/

theorem handle_of_short (hshort : request.length < Datagram.headerLength) :
    handle options request = .count .received (.count .malformed (.done none)) := by
  rw [handle, if_pos hshort]

theorem handle_of_unreadable (hlong : Datagram.headerLength ≤ request.length)
    (hquery : Message.decode? request = none) :
    handle options request = .count .received (forward options request none none) := by
  rw [handle, if_neg (Nat.not_lt.mpr hlong), hquery]

theorem handle_of_unkeyed (hquery : Message.decode? request = some query)
    (hkey : Cache.requestKey? query = none) :
    handle options request = .count .received (forward options request (some query) none) := by
  have hlong := Message.headerLength_le_of_decode? hquery
  rw [handle, if_neg (Nat.not_lt.mpr hlong), hquery]
  simp only [hkey]

/-- Without a key it does not matter whether the request can be read. -/
theorem handle_of_keyless (hlong : Datagram.headerLength ≤ request.length)
    (hkeyless : keyOf request = none) :
    handle options request =
      .count .received (forward options request (Message.decode? request) none) := by
  cases hquery : Message.decode? request with
  | none => exact handle_of_unreadable hlong hquery
  | some query =>
      rw [keyOf, hquery] at hkeyless
      exact handle_of_unkeyed hquery hkeyless

theorem handle_of_keyed (hquery : Message.decode? request = some query)
    (hkey : Cache.requestKey? query = some key) :
    handle options request =
      .count .received (.lookup key (afterLookup options request query key)) := by
  have hlong := Message.headerLength_le_of_decode? hquery
  rw [handle, if_neg (Nat.not_lt.mpr hlong), hquery]
  simp only [hkey]
  rfl

/-- A request is dropped, forwarded without a key, or looked up. -/
theorem handle_cases (options : Options) (request : Bytes) :
    handle options request = .count .received (.count .malformed (.done none)) ∨
      (∃ query, Message.decode? request = query ∧
        handle options request = .count .received (forward options request query none)) ∨
      ∃ query key, Message.decode? request = some query ∧ Cache.requestKey? query = some key ∧
        handle options request =
          .count .received (.lookup key (afterLookup options request query key)) := by
  by_cases hshort : request.length < Datagram.headerLength
  · exact Or.inl (handle_of_short hshort)
  cases hkeyed : keyOf request with
  | none =>
      exact Or.inr (Or.inl ⟨_, rfl, handle_of_keyless (Nat.not_lt.mp hshort) hkeyed⟩)
  | some key =>
      obtain ⟨query, hquery, hkey⟩ := Option.bind_eq_some_iff.mp hkeyed
      exact Or.inr (Or.inr ⟨query, key, hquery, hkey, handle_of_keyed hquery hkey⟩)

theorem afterLookup_of_not_hit {found : Except Fault (Option Hit)}
    (h : ∀ hit, found ≠ .ok (some hit)) :
    afterLookup options request query key found =
      .count .cacheMiss (forward options request (some query) (some key)) := by
  unfold afterLookup
  split
  · rename_i hit
    exact absurd rfl (h hit)
  · rfl

/-! ## How a reply comes about -/

theorem refuse_cases (options : Options) (request : Bytes) :
    refuse options request = .done none ∨
      ∃ reply, Datagram.refusal request = .ok reply ∧
        refuse options request = .count .refusal (.done (some reply)) := by
  unfold refuse
  split
  · split
    · rename_i reply hreply
      exact Or.inr ⟨reply, hreply, rfl⟩
    · exact Or.inl rfl
  · exact Or.inl rfl

/-- A response that fits is sent whole; one that is too large is shortened, or the
request is refused. -/
theorem fit_cases (options : Options) (request : Bytes) (query : Option Message)
    (response : Bytes) :
    ((∀ asked ∈ query, response.length ≤ replyLimit options asked) ∧
        fit options request query response = .done (some response)) ∨
      ∃ asked, query = some asked ∧ replyLimit options asked < response.length ∧
        ((∃ shortened, Message.truncateFor (replyLimit options asked) response = .ok shortened ∧
            fit options request query response = .count .truncated (.done (some shortened))) ∨
          ((∀ shortened, Message.truncateFor (replyLimit options asked) response ≠ .ok shortened) ∧
            fit options request query response = refuse options request)) := by
  cases query with
  | none => exact Or.inl ⟨by simp, rfl⟩
  | some asked =>
      by_cases hfits : response.length ≤ replyLimit options asked
      · refine Or.inl ⟨?_, if_pos hfits⟩
        rintro other ⟨⟩
        exact hfits
      · refine Or.inr ⟨asked, rfl, Nat.lt_of_not_le hfits, ?_⟩
        cases hshortened : Message.truncateFor (replyLimit options asked) response with
        | ok shortened => exact Or.inl ⟨shortened, rfl, by rw [fit, if_neg hfits, hshortened]⟩
        | error fault =>
            exact Or.inr ⟨by simp, by rw [fit, if_neg hfits, hshortened]⟩

theorem keepResponse_cases (options : Options) (key : Option String) (response : Bytes)
    (next : Action (Option Bytes)) :
    keepResponse options key response next = next ∨
      ∃ name lifetime, key = some name ∧
        (Message.decode? response).bind (Message.lifetime? options.lifetimes) = some lifetime ∧
        keepResponse options key response next = .keep name response lifetime next := by
  unfold keepResponse
  split
  · exact Or.inl rfl
  · rename_i name
    split
    · exact Or.inl rfl
    · rename_i lifetime hlasting
      exact Or.inr ⟨name, lifetime, rfl, hlasting, rfl⟩

theorem refuse_quiet (options : Options) (request : Bytes) : (refuse options request).Quiet := by
  rcases refuse_cases options request with h | ⟨reply, _, h⟩
  · rw [h]
    trivial
  · rw [h]
    trivial

theorem fit_quiet (options : Options) (request : Bytes) (query : Option Message)
    (response : Bytes) : (fit options request query response).Quiet := by
  rcases fit_cases options request query response with
    ⟨_, h⟩ | ⟨_, _, _, ⟨shortened, _, h⟩ | ⟨_, h⟩⟩
  · rw [h]
    trivial
  · rw [h]
    trivial
  · rw [h]
    exact refuse_quiet options request

/-! ## Answers of the remote server -/

/-- An answer is accepted if it is as long as a header, and then it gets the first two
bytes of its request. -/
theorem acceptAnswer_eq_ok_iff {answer : Except Fault Bytes} {reply : Bytes} :
    acceptAnswer request answer = .ok reply ↔ 2 ≤ request.length ∧
      ∃ data, answer = .ok data ∧ Datagram.headerLength ≤ data.length ∧
        reply = request.take 2 ++ data.drop 2 := by
  rcases request with _ | ⟨hi, _ | ⟨lo, rest⟩⟩
  · exact iff_of_false (by simp [acceptAnswer, Datagram.id, bind, Except.bind]) (by simp)
  · exact iff_of_false (by simp [acceptAnswer, Datagram.id, bind, Except.bind]) (by simp)
  · cases answer with
    | error fault => simp [acceptAnswer, Datagram.id, bind, Except.bind]
    | ok data =>
        by_cases hshort : data.length < Datagram.headerLength
        · have hnot := Nat.not_le.mpr hshort
          simp [acceptAnswer, Datagram.id, bind, Except.bind, hshort, hnot, throw, throwThe,
            MonadExceptOf.throw]
        · have hlong := Nat.not_lt.mp hshort
          rcases data with _ | ⟨first, _ | ⟨second, body⟩⟩
          · exact absurd hlong (by decide)
          · exact absurd hlong (by simp [Datagram.headerLength])
          · simp only [List.length_cons] at hshort hlong
            simp [acceptAnswer, Datagram.id, bind, Except.bind, Datagram.withId, hshort, hlong,
              Wire.bytes16_word16, eq_comm]

/-- A response that is readable and carries the ID of its request is accepted as it
is. -/
theorem acceptAnswer_of_decode? {data : Bytes} {message : Message}
    (hquery : Message.decode? request = some query) (hdata : Message.decode? data = some message)
    (hid : message.header.id = query.header.id) :
    acceptAnswer request (.ok data) = .ok data := by
  have hlength := Message.headerLength_le_of_decode? hquery
  refine acceptAnswer_eq_ok_iff.mpr ⟨Nat.le_trans (by decide) hlength, data, rfl,
    Message.headerLength_le_of_decode? hdata, ?_⟩
  calc
    data = data.take 2 ++ data.drop 2 := (List.take_append_drop 2 data).symm
    _ = Wire.bytes16 message.header.id ++ data.drop 2 := by rw [Message.take_of_decode? hdata]
    _ = request.take 2 ++ data.drop 2 := by rw [hid, Message.take_of_decode? hquery]

/-! ## Answers from the cache -/

variable {around : Surroundings} {shared : Shared}

theorem exists_entry_of_lookup {now : Instant} {hit : Hit}
    (h : shared.lookup now key = .ok (some hit)) :
    ∃ entry, shared.cache.get now key = some entry ∧ hit = ⟨entry.data, entry.age now⟩ := by
  unfold Shared.lookup at h
  split at h
  · cases h
  · obtain ⟨entry, hentry, hhit⟩ := Option.map_eq_some_iff.mp (Except.ok.inj h)
    exact ⟨entry, hentry, hhit.symm⟩

theorem stored_of_get {cache : Cache} {now : Instant} {entry : Entry}
    (h : cache.get now key = some entry) : cache.stored? key = some entry :=
  (Option.filter_eq_some_iff.mp h).1

/-- All that others see of the handling is that an entry was found: the remote
server is not asked. -/
def AnsweredFromCache (options : Options) (around : Surroundings) (shared : Shared)
    (request : Bytes) (key : String) : Prop :=
  ((handle options request).run around shared).2.2 = [.found key]

theorem answeredFromCache_of_hit {hit : Hit} {response : Bytes}
    (hquery : Message.decode? request = some query) (hkey : Cache.requestKey? query = some key)
    (hlookup : shared.lookup around.now key = .ok (some hit))
    (hage : Message.age hit.data hit.age query = .ok response) :
    AnsweredFromCache options around shared request key := by
  have hfound : (shared.count .received).lookup around.now key = .ok (some hit) := hlookup
  rw [AnsweredFromCache, handle_of_keyed hquery hkey]
  simp only [Action.run, hfound, afterLookup, hage, Shared.lookupEvent]
  rw [(fit_quiet options request (some query) response).events_run]

theorem exists_hit_of_answeredFromCache
    (h : AnsweredFromCache options around shared request key) :
    ∃ query hit, Message.decode? request = some query ∧ Cache.requestKey? query = some key ∧
      shared.lookup around.now key = .ok (some hit) := by
  unfold AnsweredFromCache at h
  rcases handle_cases options request with hpath | ⟨query, _, hpath⟩ |
    ⟨query, asked, hquery, hkey, hpath⟩
  · rw [hpath] at h
    cases h
  · rw [hpath] at h
    cases h
  · rw [hpath] at h
    have hevent := (List.cons.inj h).1
    have hlookup : (shared.count .received).lookup around.now asked =
      shared.lookup around.now asked := rfl
    rw [hlookup] at hevent
    cases hfound : shared.lookup around.now asked with
    | error fault =>
        rw [hfound] at hevent
        cases hevent
    | ok found =>
        rw [hfound] at hevent
        cases found with
        | none => cases hevent
        | some hit =>
            cases hevent
            exact ⟨query, hit, hquery, hkey, hfound⟩

end Resolver

end DnsForwarder
