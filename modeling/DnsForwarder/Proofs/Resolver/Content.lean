import DnsForwarder.Proofs.Message.Aging
import DnsForwarder.Proofs.Message.Shortening
import DnsForwarder.Proofs.Resolver.Contract
import DnsForwarder.Proofs.Resolver.Provenance

/-!
# What the cache holds

Every entry holds a whole response: it can be read, is not truncated, has a question, and
says either that all went well or that the name does not exist.  Its lifetime is the one
that the response has (`Entry.Holds`).

So an entry that is found can be aged for the request that found it, which has one question.
`kept_entries` draws the conclusions for every run: no request takes an entry out of the cache,
and what a client gets from the cache is no error and truncated only to fit (`Served`).
-/

namespace DnsForwarder

/-! ## Lifetimes -/

namespace Message

theorem isKeepable_iff (response : Message) :
    response.isKeepable = true ↔ response.header.truncated = false ∧ response.questions ≠ [] ∧
      (response.responseCode = noError ∨ response.responseCode = nameError) := by
  simp only [isKeepable, Bool.and_eq_true, Bool.not_eq_true', Bool.or_eq_true, beq_iff_eq,
    List.isEmpty_eq_false_iff, and_assoc]

/-- Only what may be kept has a lifetime, and the lifetime is positive and within the bounds
of the policy. -/
theorem lifetime?_spec {policy : LifetimePolicy} {response : Message} {lifetime : Duration}
    (h : response.lifetime? policy = some lifetime) :
    response.isKeepable = true ∧ lifetime ≠ 0 ∧ (policy.lowest ≤ policy.highest →
      policy.lowest ≤ lifetime ∧ lifetime ≤ policy.highest) := by
  unfold lifetime? at h
  cases hkeepable : response.isKeepable with
  | false =>
      rw [hkeepable] at h
      cases h
  | true =>
      rw [hkeepable] at h
      obtain ⟨own, _, h⟩ := Option.bind_eq_some_iff.mp h
      obtain ⟨hpositive, hbounded⟩ := Option.ite_none_left_eq_some.mp h
      obtain rfl := Option.some.inj hbounded
      refine ⟨rfl, hpositive, fun hordered => ⟨?_, Nat.min_le_right _ _⟩⟩
      exact Nat.le_min.mpr ⟨Nat.le_max_right _ _, hordered⟩

end Message

/-- The entry holds this response, for as long as the policy says. -/
structure Entry.Holds (policy : LifetimePolicy) (entry : Entry) (response : Message) : Prop where
  reads : Message.decode? entry.data = some response
  whole : response.header.truncated = false
  asked : response.questions ≠ []
  code : response.responseCode = Message.noError ∨ response.responseCode = Message.nameError
  lifetime : response.lifetime? policy = some entry.lifetime
  lasting : entry.lifetime ≠ 0
  bounded : policy.lowest ≤ policy.highest →
    policy.lowest ≤ entry.lifetime ∧ entry.lifetime ≤ policy.highest

namespace Resolver

variable {options : Options} {answers : List Answer} {request : Bytes}

/-! ## Answers from the cache -/

/-- What is left to do is to fit an earlier response that was kept under the key of the request,
is whole and no error, and was aged for the request.  The client gets a reply with its response
code, truncated only if the response is too large for the client or for any message. -/
def Served (options : Options) (answers : List Answer) (request : Bytes)
    (rest : Action (Option Bytes)) : Prop :=
  ∃ answer ∈ answers, ∃ (key : String) (data response : Bytes) (query kept message : Message)
      (lifetime elapsed : Duration),
    Message.decode? request = some query ∧ Cache.requestKey? query = some key ∧
    Origin options answer.request answer.response key data lifetime ∧
    Message.decode? data = some kept ∧ kept.header.truncated = false ∧
    (kept.responseCode = Message.noError ∨ kept.responseCode = Message.nameError) ∧
    Message.age data elapsed query = .ok response ∧ Message.decode? response = some message ∧
    (Message.aged elapsed query kept).carried.LeftOf message ∧
    rest = fit options request (some query) response ∧
    rest.EndsIn fun result => ∃ reply served, result = some reply ∧
      Message.decode? reply = some served ∧ served.responseCode = kept.responseCode ∧
      (served.header.truncated = true → replyLimit options query < response.length ∨
        Message.largestSize < ((Message.aged elapsed query kept).write.run 0 []).1.length)

/-- A response with few questions is sent whole or shortened, but never refused. -/
theorem fit_few_cases (options : Options) (request : Bytes) {response : Bytes}
    {query message : Message} (hresponse : Message.decode? response = some message)
    (hfew : message.questions.length ≤ 252) :
    fit options request (some query) response = .done (some response) ∨
      replyLimit options query < response.length ∧ ∃ shortened read,
        Message.decode? shortened = some read ∧ message.shortened.LeftOf read ∧
        fit options request (some query) response = .count .truncated (.done (some shortened)) := by
  rcases fit_cases options request (some query) response with
    ⟨_, h⟩ | ⟨asked, hasked, hlong, ⟨shortened, hshortened, h⟩ | ⟨hnot, _⟩⟩
  · exact Or.inl h
  · obtain rfl := Option.some.inj hasked
    obtain ⟨other, hother, hencode⟩ := (Message.truncateFor_eq_ok_iff hlong).mp hshortened
    obtain rfl := Option.some.inj (hresponse.symm.trans hother)
    have hread := Message.decode?_shortened (Message.decode?_readable hresponse) hencode
    exact Or.inr ⟨hlong, shortened, _, hread, message.shortened.trimmed_leftOf, h⟩
  · obtain ⟨reply, hreply⟩ := Message.exists_truncateFor hresponse _ hfew
    exact absurd hreply (hnot reply)

/-- What the client reads of an aged response has its code, and is truncated only because of a
size. -/
theorem fit_endsIn_aged {response : Bytes} {query whole message : Message}
    (hcode : whole.responseCode < 16) (hwhole : whole.header.truncated = false)
    (hfew : whole.questions.length ≤ 252) (hmessage : Message.decode? response = some message)
    (hleft : whole.LeftOf message) :
    (fit options request (some query) response).EndsIn fun result => ∃ reply served,
      result = some reply ∧ Message.decode? reply = some served ∧
        served.responseCode = whole.responseCode ∧
        (served.header.truncated = true → replyLimit options query < response.length ∨
          Message.largestSize < (whole.write.run 0 []).1.length) := by
  have hmessageCode := hleft.responseCode_eq hcode
  have hquestions : message.questions.length ≤ 252 := by rwa [hleft.questions]
  rcases @fit_few_cases options request _ query _ hmessage hquestions with
    h | ⟨hlong, shortened, served, hserved, hshort, h⟩
  · rw [h]
    refine ⟨response, message, rfl, hmessage, hmessageCode, fun htruncated => Or.inr ?_⟩
    by_contra hsize
    rw [hleft.complete (Nat.le_of_not_lt hsize), hwhole] at htruncated
    cases htruncated
  · rw [h]
    have hshortCode : message.shortened.responseCode = message.responseCode := rfl
    refine ⟨shortened, served, rfl, hserved, ?_, fun _ => Or.inl hlong⟩
    rw [hshort.responseCode_eq (by omega), hshortCode, hmessageCode]

/-! ## What a request does with an entry -/

/-- A request may rely on what the cache holds, and answers from the cache accordingly. -/
def serving (options : Options) (answers : List Answer) (request : Bytes) :
    Action.Contract (Option Bytes) where
  hears := fun _ => True
  finds := fun key hit => ∃ answer ∈ answers, ∃ lifetime,
    Origin options answer.request answer.response key hit.data lifetime
  hits := Served options answers request
  forgets := False

theorem assumes_serving (options : Options) (answers : List Answer) (request : Bytes) :
    Assumes options answers request (serving options answers request) :=
  ⟨fun _ _ => trivial, fun answer hanswer _ _ lifetime horigin =>
    ⟨answer, hanswer, lifetime, horigin⟩⟩

/-- A response that may be kept is whole, and its code is for success or for a name that does not
exist. -/
theorem Origin.exists_kept {response data : Bytes} {key : String} {lifetime : Duration}
    (h : Origin options request response key data lifetime) :
    ∃ kept, Message.decode? data = some kept ∧ kept.header.truncated = false ∧
      (kept.responseCode = Message.noError ∨ kept.responseCode = Message.nameError) := by
  obtain ⟨kept, hkept, hlifetime⟩ := Option.bind_eq_some_iff.mp h.lasting
  obtain ⟨hwhole, _, hcode⟩ := kept.isKeepable_iff.mp (Message.lifetime?_spec hlifetime).1
  exact ⟨kept, hkept, hwhole, hcode⟩

/-- A request with a key has one question. -/
theorem questions_le_of_requestKey? {query : Message} {key : String}
    (h : Cache.requestKey? query = some key) : query.questions.length ≤ 252 := by
  obtain ⟨question, _, hquestion, _⟩ := Cache.requestKey?_eq_some_iff.mp h
  rw [hquestion]
  exact Nat.le_add_left 1 251

theorem handle_honours_serving (options : Options) (answers : List Answer) (request : Bytes) :
    (handle options request).Honours (serving options answers request) := by
  have hrefuse : (refuse options request).Honours (serving options answers request) :=
    refuse_honours trivial fun _ _ => trivial
  have hfit : ∀ query response,
      (fit options request query response).Honours (serving options answers request) :=
    fun _ _ => fit_honours (fun _ => trivial) (fun _ _ _ _ _ _ _ => trivial) fun _ _ _ => hrefuse
  refine handle_honours trivial (fun query key _ => forward_honours hrefuse ?_) ?_
  · exact fun response data _ _ => hfit query data
  · rintro query key hit hquery hkey ⟨answer, hanswer, lifetime, horigin⟩
    obtain ⟨kept, hkept, hwhole, hcode⟩ := horigin.exists_kept
    have hfew := questions_le_of_requestKey? hkey
    obtain ⟨response, hage⟩ := Message.exists_age hkept hit.age hfew
    obtain ⟨message, hmessage, hleft⟩ :=
      Message.exists_leftOf_of_age hkept (Message.decode?_readable hquery) hage
    have hsmall : kept.responseCode < 16 := by
      rcases hcode with h | h <;> rw [h] <;> decide
    have hends := @fit_endsIn_aged options request response query
      (Message.aged hit.age query kept).carried message hsmall hwhole hfew hmessage hleft
    rw [Message.write_carried] at hends
    exact Or.inl ⟨response, hage, ⟨answer, hanswer, key, hit.data, response, query, kept, message,
      lifetime, hit.age, hquery, hkey, horigin, hkept, hwhole, hcode, hage, hmessage, hleft, rfl,
      hends⟩, hfit (some query) response⟩

/-! ## Every run -/

theorem Sourced.holds {traffic : Traffic} (h : Sourced options traffic) {key : String}
    {entry : Entry} (hstored : traffic.shared.cache.stored? key = some entry) :
    ∃ response, entry.Holds options.lifetimes response := by
  obtain ⟨_, _, horigin⟩ := h.entries key entry hstored
  obtain ⟨response, hresponse, hlifetime⟩ := Option.bind_eq_some_iff.mp horigin.lasting
  obtain ⟨hkeepable, hlasting, hbounded⟩ := Message.lifetime?_spec hlifetime
  obtain ⟨hwhole, hasked, hcode⟩ := response.isKeepable_iff.mp hkeepable
  exact ⟨response, hresponse, hwhole, hasked, hcode, hlifetime, hlasting, hbounded⟩

/-- What a request finds can be aged for it. -/
theorem Sourced.exists_age {traffic : Traffic} (h : Sourced options traffic) {now : Instant}
    {key : String} {hit : Hit} {query : Message} (hkey : Cache.requestKey? query = some key)
    (hlookup : traffic.shared.lookup now key = .ok (some hit)) :
    ∃ response, Message.age hit.data hit.age query = .ok response := by
  obtain ⟨entry, hentry, rfl⟩ := exists_entry_of_lookup hlookup
  obtain ⟨kept, hholds⟩ := h.holds (stored_of_get hentry)
  exact Message.exists_age hholds.reads _ (questions_le_of_requestKey? hkey)

/-- **What the cache holds, and what comes of it.**  After any moves every entry holds a whole
response that is no error, for its own lifetime, and the entry can be aged for every request that
has few questions or with which it fits into a message.  No call takes an entry out of the cache,
and a call that is answered from the cache is served a whole response that is no error. -/
theorem kept_entries (options : Options) (moves : List Move) :
    (∀ key entry, (Traffic.run options .start moves).shared.cache.stored? key = some entry →
      ∃ response, entry.Holds options.lifetimes response ∧
        ∀ (elapsed : Duration) (query : Message), query.questions.length ≤ 252 ∨
            ((Message.aged elapsed query response).write.run 0 []).1.length ≤
              Message.largestSize →
          ∃ reply, Message.age entry.data elapsed query = .ok reply) ∧
    ∀ call ∈ (Traffic.run options .start moves).calls,
      (∀ key rest, call.rest ≠ .forget key rest) ∧
      ∀ rest, call.rest = .count .cacheHit rest →
        Served options (Traffic.run options .start moves).answers call.request rest := by
  refine ⟨fun key entry hstored => ?_, fun call hcall => ?_⟩
  · obtain ⟨response, hholds⟩ := (run_sourced options moves).holds hstored
    refine ⟨response, hholds, fun elapsed query hsize => ?_⟩
    rcases hsize with hfew | hfits
    · exact Message.exists_age hholds.reads elapsed hfew
    · exact ⟨_, Message.age_of_length_le hholds.reads hfits⟩
  · have hhonours := honours_run (fun request => assumes_serving options _ request)
      (fun request => handle_honours_serving options _ request) call hcall
    refine ⟨fun key rest hrest => ?_, fun rest hrest => ?_⟩
    · rw [hrest] at hhonours
      exact hhonours.1
    · rw [hrest] at hhonours
      exact hhonours.1 rfl

/-- The response with one address is kept for five minutes. -/
theorem kept_entries_address :
    ∃ moves key entry response, (Traffic.run wideOptions .start moves).requests =
        [typeRequest 1 1] ∧
      (Traffic.run wideOptions .start moves).shared.cache.stored? key = some entry ∧
      entry.data = typeResponse 1 1 ∧ entry.Holds wideOptions.lifetimes response ∧
      entry.lifetime = seconds 300 := by
  have hquery : Message.decode? (typeRequest 1 1) = some (typeQuery 1 1) := by cbv
  have haccepted : acceptAnswer (typeRequest 1 1) (.ok (typeResponse 1 1)) =
      .ok (typeResponse 1 1) := by cbv
  have hlasting : (Message.decode? (typeResponse 1 1)).bind
      (Message.lifetime? wideOptions.lifetimes) = some (seconds 300) := by cbv
  obtain ⟨moves, hshared, hcalls⟩ := Traffic.exists_moves_handle wideOptions .start
    (typeRequest 1 1) (answering (typeResponse 1 1))
  have hfound := @lookup_second wideOptions (typeRequest 1 1) (answering (typeResponse 1 1))
    (typeQuery 1 1) _ _ _ hquery rfl haccepted hlasting (by decide)
  obtain ⟨entry, hentry, hhit⟩ := exists_entry_of_lookup hfound
  have hdata : entry.data = typeResponse 1 1 := (congrArg Hit.data hhit).symm
  have hstored := stored_of_get hentry
  change ((handle wideOptions (typeRequest 1 1)).run (answering (typeResponse 1 1))
    Traffic.start.shared).2.1.cache.stored? _ = some entry at hstored
  rw [← hshared] at hstored
  obtain ⟨response, hholds, _⟩ := (kept_entries wideOptions moves).1 _ entry hstored
  refine ⟨moves, _, entry, response, by rw [Traffic.requests, hcalls]; rfl, hstored, hdata,
    hholds, ?_⟩
  rw [← hdata, hholds.reads, Option.bind_some, hholds.lifetime] at hlasting
  exact Option.some.inj hlasting

end Resolver

end DnsForwarder
