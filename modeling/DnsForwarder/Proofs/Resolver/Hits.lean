import DnsForwarder.Proofs.Resolver.Content

/-!
# Answers from the cache, taken apart

When a request is answered from the cache after any moves, an entry was found under its key,
the response in it could be read and aged, and the reply is that response, fitted.  The entry
stems from an answer to an earlier request with the same key.  `Found` names these parts, and
`exists_found` says that they are always there; the later modules draw their conclusions from
them.
-/

namespace DnsForwarder.Resolver

variable {options : Options} {around : Surroundings} {shared : Shared} {request : Bytes}
  {key : String}

/-- The entry that was found could be aged: otherwise others would see it taken out of the
cache. -/
theorem exists_response_of_answeredFromCache
    (h : AnsweredFromCache options around shared request key) :
    ∃ query hit response, Message.decode? request = some query ∧
      Cache.requestKey? query = some key ∧ shared.lookup around.now key = .ok (some hit) ∧
      Message.age hit.data hit.age query = .ok response := by
  obtain ⟨query, hit, hquery, hkey, hlookup⟩ := exists_hit_of_answeredFromCache h
  cases hage : Message.age hit.data hit.age query with
  | ok response => exact ⟨query, hit, response, hquery, hkey, hlookup, hage⟩
  | error fault =>
      have hfound : (shared.count .received).lookup around.now key = .ok (some hit) := hlookup
      rw [AnsweredFromCache, handle_of_keyed hquery hkey] at h
      simp only [Action.run, hfound, afterLookup, hage] at h
      have hforgot := (List.cons.inj h).2
      cases hforgot

/-- What the reply to a request that is answered from the cache is made of. -/
structure Found (options : Options) (traffic : Traffic) (around : Surroundings)
    (request : Bytes) (key : String) (query : Message) (entry : Entry) (kept : Message)
    (response : Bytes) : Prop where
  reads : Message.decode? request = some query
  keyed : Cache.requestKey? query = some key
  got : traffic.shared.cache.get around.now key = some entry
  holds : Message.decode? entry.data = some kept
  ages : Message.age entry.data (entry.age around.now) query = .ok response
  origin : ∃ answer ∈ traffic.answers, answer.request ∈ traffic.requests ∧
    Origin options answer.request answer.response key entry.data entry.lifetime
  /-- The reply does not depend on anything else. -/
  reply : ∀ other : Shared, ((handle options request).run around traffic.shared).1 =
    ((fit options request (some query) response).run around other).1

theorem exists_found {traffic : Traffic} (hsourced : Sourced options traffic)
    (h : AnsweredFromCache options around traffic.shared request key) :
    ∃ query entry kept response,
      Found options traffic around request key query entry kept response := by
  obtain ⟨query, hit, response, hquery, hkey, hlookup, hage⟩ :=
    exists_response_of_answeredFromCache h
  obtain ⟨entry, hget, rfl⟩ := exists_entry_of_lookup hlookup
  obtain ⟨kept, hkept⟩ := Message.exists_kept_of_age hage
  obtain ⟨answer, hanswer, horigin⟩ := hsourced.entries key entry (stored_of_get hget)
  refine ⟨query, entry, kept, response, hquery, hkey, hget, hkept, hage,
    ⟨answer, hanswer, hsourced.answers answer hanswer, horigin⟩, ?_⟩
  intro other
  have hfit := (fit_quiet options request (some query) response).blind
  calc
    ((handle options request).run around traffic.shared).1
      = ((afterLookup options request query key (.ok (some ⟨entry.data, entry.age around.now⟩))).run
          around (traffic.shared.count .received)).1 := by
        rw [(run_of_keyed hquery hkey).1, hlookup]
    _ = ((fit options request (some query) response).run around
          ((traffic.shared.count .received).count .cacheHit)).1 := by
        simp only [afterLookup, hage, Action.run]
    _ = ((fit options request (some query) response).run around other).1 :=
        hfit.run_eq around _ other

variable {traffic : Traffic} {query kept : Message} {entry : Entry} {response : Bytes}

/-- What a client reads in the response before it is fitted: the kept response, aged, as far as
that can travel. -/
theorem Found.exists_served
    (h : Found options traffic around request key query entry kept response) :
    ∃ served, Message.decode? response = some served ∧
      (Message.aged (entry.age around.now) query kept).carried.LeftOf served :=
  Message.exists_leftOf_of_age h.holds (Message.decode?_readable h.reads) h.ages

/-- The client gets the response, or what is left of it without its records. -/
theorem Found.exists_reply
    (h : Found options traffic around request key query entry kept response) :
    ∃ reply message served, ((handle options request).run around traffic.shared).1 = some reply ∧
      (Message.aged (entry.age around.now) query kept).carried.LeftOf message ∧
      Message.decode? reply = some served ∧
      (served = message ∨
        replyLimit options query < response.length ∧ message.shortened.LeftOf served) := by
  have hreply := h.reply traffic.shared
  obtain ⟨message, hmessage, hleft⟩ := h.exists_served
  have hquestions : message.questions = query.questions := hleft.questions
  have hfew : message.questions.length ≤ 252 := hquestions ▸ questions_le_of_requestKey? h.keyed
  rcases @fit_few_cases options request _ query _ hmessage hfew with
    hwhole | ⟨hlong, shortened, served, hserved, hshort, hfit⟩
  · rw [hwhole] at hreply
    exact ⟨response, message, message, hreply, hleft, hmessage, Or.inl rfl⟩
  · rw [hfit] at hreply
    exact ⟨shortened, message, served, hreply, hleft, hserved, Or.inr ⟨hlong, hshort⟩⟩

/-- The lookup was in time. -/
theorem Found.age_lt (h : Found options traffic around request key query entry kept response) :
    entry.age around.now < entry.lifetime := by
  obtain ⟨_, hlives⟩ := Option.filter_eq_some_iff.mp h.got
  exact Entry.expired_eq_false_iff.mp (by simpa using hlives)

/-! ## A first request -/

/-- After a first request the cache holds what was kept for it, and there are no other answers
than those to it. -/
theorem exists_moves_kept {data : Bytes} {lifetime : Duration}
    (hquery : Message.decode? request = some query) (hkey : Cache.requestKey? query = some key)
    (haccepted : acceptAnswer request (around.remote request) = .ok data)
    (hlasting : (Message.decode? data).bind (Message.lifetime? options.lifetimes) =
      some lifetime) :
    ∃ moves, (Traffic.run options .start moves).requests = [request] ∧
      (Traffic.run options .start moves).shared.cache =
        .memory [(key, ⟨data, around.now, lifetime⟩)] ∧
      (Traffic.run options .start moves).shared.failing = none ∧
      ∀ answer ∈ (Traffic.run options .start moves).answers, answer.request = request ∧
        ∃ query, around.remote query = .ok answer.response := by
  obtain ⟨moves, hshared, hcalls, hanswers⟩ :=
    Traffic.exists_moves_handle_answers options .start request around
  refine ⟨moves, by rw [Traffic.requests, hcalls]; rfl, ?_, ?_, ?_⟩
  · rw [hshared]
    exact @cache_first options request around query key data lifetime hquery hkey haccepted
      hlasting
  · rw [hshared]
    exact Action.run_failing _ around _
  · intro answer hanswer
    rcases hanswers answer hanswer with hold | hnew
    · cases hold
    · exact hnew

/-- A request with the key of the only entry is answered from it while that lives. -/
theorem answeredFromCache_of_kept {reply : Bytes} (hquery : Message.decode? request = some query)
    (hkey : Cache.requestKey? query = some key) (hcache : shared.cache = .memory [(key, entry)])
    (hworking : shared.failing = none) (hlives : entry.expired around.now = false)
    (hage : Message.age entry.data (entry.age around.now) query = .ok reply) :
    AnsweredFromCache options around shared request key := by
  have hlookup : shared.lookup around.now key = .ok (some ⟨entry.data, entry.age around.now⟩) := by
    rw [Shared.lookup, hworking, hcache]
    simp [Cache.get, Cache.stored?, Option.filter, hlives]
  exact answeredFromCache_of_hit hquery hkey hlookup hage

/-! ## Two requests for an address -/

/-- The key of a request for the address of `a.`. -/
def addressKey : String := typeKey 1

/-- A reply with one address of `name`. -/
def addressReply (name : Name) : Message where
  header := .replying 1
  questions := [⟨name, .a, ⟨1⟩⟩]
  answers := [⟨name, .a, ⟨1⟩, 300, some (.address [1, 1, 1, 1])⟩]
  authorities := []
  additionals := []
  edns := none

theorem decode?_addressResponse :
    Message.decode? (typeResponse 1 1) = some (addressReply .letter) := by cbv

theorem decode?_addressRequest : Message.decode? (typeRequest 1 1) = some (typeQuery 1 1) := by
  cbv

theorem decode?_addressRequestAgain :
    Message.decode? (typeRequest 2 1) = some (typeQuery 2 1) := by
  cbv

/-- What the first of two requests leaves in the cache, if the response is for five minutes. -/
theorem exists_moves_address {data : Bytes} (hquery : Message.decode? request = some query)
    (hkey : Cache.requestKey? query = some addressKey) (hkept : Message.decode? data = some kept)
    (hid : kept.header.id = query.header.id)
    (hlasting : kept.lifetime? wideOptions.lifetimes = some (seconds 300)) :
    ∃ moves, (Traffic.run wideOptions .start moves).requests = [request] ∧
      (Traffic.run wideOptions .start moves).shared.cache =
        .memory [(addressKey, ⟨data, 0, seconds 300⟩)] ∧
      (Traffic.run wideOptions .start moves).shared.failing = none ∧
      ∀ answer ∈ (Traffic.run wideOptions .start moves).answers,
        answer.request = request ∧ answer.response = data := by
  have haccepted : acceptAnswer request ((answering data).remote request) = .ok data :=
    acceptAnswer_of_decode? hquery hkept hid
  have hlifetime : (Message.decode? data).bind (Message.lifetime? wideOptions.lifetimes) =
      some (seconds 300) := by
    rw [hkept, Option.bind_some, hlasting]
  obtain ⟨moves, hrequests, hcache, hworking, hanswers⟩ :=
    exists_moves_kept hquery hkey haccepted hlifetime
  refine ⟨moves, hrequests, hcache, hworking, fun answer hanswer => ?_⟩
  obtain ⟨hrequest, _, hresponse⟩ := hanswers answer hanswer
  exact ⟨hrequest, (Except.ok.inj hresponse).symm⟩

/-- The second one is answered from that. -/
theorem answeredFromCache_address {data reply : Bytes}
    (hcache : shared.cache = .memory [(addressKey, ⟨data, 0, seconds 300⟩)])
    (hworking : shared.failing = none) (hlives : around.now < seconds 300)
    (hage : Message.age data around.now (typeQuery 2 1) = .ok reply) :
    AnsweredFromCache wideOptions around shared (typeRequest 2 1) addressKey := by
  have hexpired : Entry.expired ⟨data, 0, seconds 300⟩ around.now = false :=
    Entry.expired_eq_false_iff.mpr hlives
  exact answeredFromCache_of_kept decode?_addressRequestAgain rfl hcache hworking hexpired hage

end DnsForwarder.Resolver
