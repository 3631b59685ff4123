import DnsForwarder.Proofs.Message.Renumbering
import DnsForwarder.Proofs.Resolver.Course
import DnsForwarder.Proofs.Udp.Relay
import DnsForwarder.Remote.Doh

/-!
# What becomes of a forwarded request

The ID is replaced twice on the way of a request and put back twice: the client of the remote
server keeps the ID of its query, and the resolver the one of its request.
`Relays request response answer` says what the two clients make of a response; whichever it is,
the answer is the response with the ID of the request (`Relays.answer_eq`).

A request that is not answered from the cache is forwarded once, and what becomes of the answer
is `Answered` (`HandleCourse.exchange`): the request is refused, or the response is fitted.  A
request without a key does not even call the cache (`HandleCourse.onCache`), so none of its
steps changes it (`cache_advance`).
-/

namespace DnsForwarder

namespace Happening

/-- What the remote server was asked, and the answer. -/
def exchange? : Happening → Option (Bytes × Except Fault Bytes)
  | asked query answer => some (query, answer)
  | _ => none

/-- A call on the cache. -/
def onCache : Happening → Bool
  | looked _ _ | forgot _ | kept _ _ _ => true
  | _ => false

end Happening

namespace Action

variable {Result : Type}

/-- Whatever the outcomes of its steps, an action comes to an end. -/
theorem Courses.exists_course {action : Action Result} {goal : List Happening → Result → Prop}
    (h : action.Courses goal) : ∃ course result, goal course result := by
  induction action generalizing goal with
  | done result => exact ⟨_, _, h⟩
  | count counter next ih =>
      obtain ⟨course, result, hgoal⟩ := ih h
      exact ⟨_, _, hgoal⟩
  | lookup key next ih =>
      obtain ⟨course, result, hgoal⟩ := ih (.ok none) (h _)
      exact ⟨_, _, hgoal⟩
  | forget key next ih =>
      obtain ⟨course, result, hgoal⟩ := ih h
      exact ⟨_, _, hgoal⟩
  | keep key data lifetime next ih =>
      obtain ⟨course, result, hgoal⟩ := ih h
      exact ⟨_, _, hgoal⟩
  | ask query next ih =>
      obtain ⟨course, result, hgoal⟩ := ih (.ok []) (h _)
      exact ⟨_, _, hgoal⟩
  | send reply next ih =>
      obtain ⟨course, result, hgoal⟩ := ih true (h _)
      exact ⟨_, _, hgoal⟩

/-- An action that calls the cache in none of its courses leaves it as it is. -/
theorem Courses.cache_step {action : Action Result}
    (h : action.Courses fun course _ => ∀ happening ∈ course, happening.onCache = false)
    (around : Surroundings) (shared : Shared) :
    (action.step around shared).2.1.cache = shared.cache := by
  cases action with
  -- a step that changes the cache would be in every course, and there is one
  | forget key next =>
      have hnext : next.Courses fun course _ =>
        ∀ happening ∈ .forgot key :: course, happening.onCache = false := h
      obtain ⟨course, _, hcourse⟩ := hnext.exists_course
      cases hcourse _ List.mem_cons_self
  | keep key data lifetime next =>
      have hnext : next.Courses fun course _ =>
        ∀ happening ∈ .kept key data lifetime :: course, happening.onCache = false := h
      obtain ⟨course, _, hcourse⟩ := hnext.exists_course
      cases hcourse _ List.mem_cons_self
  | _ => rfl

end Action

/-! ## What the clients of the remote server make of a response -/

theorem Doh.resolve_eq {request : Bytes} (hlength : 2 ≤ request.length) :
    ∃ id, Datagram.id request = .ok id ∧
      Doh.prepare request = .ok (id, Wire.bytes16 0 ++ request.drop 2) ∧
      ∀ server, Doh.resolve server request =
        Doh.finish id (server (Wire.bytes16 0 ++ request.drop 2)) := by
  match request with
  | [] | [_] => simp at hlength
  | hi :: lo :: rest => exact ⟨_, rfl, rfl, fun _ => rfl⟩

theorem Doh.finish_of_success {status : Nat} {response : Bytes}
    (hsuccess : Doh.isSuccess status = true) (hlong : Datagram.headerLength ≤ response.length)
    (id : UInt16) :
    Doh.finish id (.answered status response) = .ok (Wire.bytes16 id ++ response.drop 2) := by
  rw [Doh.finish, hsuccess, if_neg (by simp), if_neg (Nat.not_lt.mpr hlong)]
  match response, hlong with
  | _ :: _ :: _, _ => rfl

/-- An outcome is a response, or it is the same fault for every query. -/
theorem Doh.finish_cases (outcome : Doh.Outcome) :
    (∃ status response, outcome = .answered status response ∧ Doh.isSuccess status = true ∧
        Datagram.headerLength ≤ response.length) ∨
      ∃ fault, ∀ id, Doh.finish id outcome = .error fault := by
  cases outcome with
  | answered status response =>
      by_cases hsuccess : Doh.isSuccess status = true
      · by_cases hlong : Datagram.headerLength ≤ response.length
        · exact Or.inl ⟨status, response, rfl, hsuccess, hlong⟩
        · refine Or.inr ⟨.bodyTooShort response.length, fun id => ?_⟩
          rw [Doh.finish, hsuccess, if_neg (by simp), if_pos (Nat.lt_of_not_le hlong)]
      · refine Or.inr ⟨.statusRefused (Doh.statusText status), fun id => ?_⟩
        rw [Doh.finish, if_pos (by simpa using hsuccess)]
  | timedOut => exact Or.inr ⟨_, fun _ => rfl⟩
  | failed => exact Or.inr ⟨_, fun _ => rfl⟩

namespace Resolver

open Datagram (inReplyTo)

/-- The client that is asked for `request` gives this answer when the server has given
`response` to it: in the body of a success over HTTPS, or in a datagram that arrives over UDP
while the call is registered under its ID and listens.  A call over UDP that gives up before it
takes the datagram does not relay it. -/
inductive Relays (request response : Bytes) : Except Fault Bytes → Prop
  | https {server : Bytes → Doh.Outcome} {status : Nat}
      (hserver : server (Wire.bytes16 0 ++ request.drop 2) = .answered status response)
      (hsuccess : Doh.isSuccess status = true) :
      Relays request response (Doh.resolve server request)
  | udp {server : SocketAddress} {timeoutMilliseconds : Nat} {earlier later : List Udp.Step}
      {client last : Udp.Client} {place : Nat} {call : Udp.Call} {answer : Except Fault Bytes}
      (hrun : (Udp.Client.idle server timeoutMilliseconds).run earlier = some client)
      (hcall : client.calls[place]? = some call) (hquery : call.query = request)
      (hlistens : call.listens = true) (hlisted : (call.wireId, place) ∈ client.pending)
      (hresponse : Datagram.isResponse response = true)
      (hid : Datagram.id response = .ok call.wireId)
      (hlater : client.run (.arrive response :: later) = some last)
      (hresult : last.result? place = some answer)
      (hheard : ∀ fault, Udp.GivesUp fault → answer ≠ .error fault) :
      Relays request response answer

variable {options : Options} {request response : Bytes} {answer : Except Fault Bytes}

/-- Whichever client it is, the answer is the response with the ID of the request. -/
theorem Relays.answer_eq (h : Relays request response answer) (hrequest : 2 ≤ request.length)
    (hlong : Datagram.headerLength ≤ response.length) :
    answer = .ok (inReplyTo request response) := by
  cases h with
  | @https server status hserver hsuccess =>
      obtain ⟨id, hid, _, hresolve⟩ := Doh.resolve_eq hrequest
      calc
        Doh.resolve server request = Doh.finish id (.answered status response) := by
          rw [hresolve, hserver]
        _ = .ok (Wire.bytes16 id ++ response.drop 2) := Doh.finish_of_success hsuccess hlong id
        _ = .ok (inReplyTo request response) := by rw [inReplyTo, Datagram.take_eq_of_id hid]
  | @udp server timeoutMilliseconds earlier later client last place call _ hrun hcall hquery
      hlistens hlisted hresponse hid hlater hresult hheard =>
      obtain ⟨horderly, _, hrecorded⟩ := Udp.Client.recorded_of_run _ _ hrun
      -- the call keeps the ID of its query, unless it has failed before it was registered
      have hopen : ∀ fault, call.stage ≠ .failed fault := by
        intro fault hfailed
        exact Udp.Call.deaf_of_stage hfailed (by simp) (by simp) hlistens
      have hown := (hrecorded.calls place call hcall).id_query hopen
      rw [hquery] at hown
      rcases Udp.Client.result?_of_arrive horderly hcall hlistens hlisted hresponse hid hlater
        hresult with hanswer | ⟨fault, hfault, hgaveUp⟩
      · rw [hanswer, inReplyTo, Datagram.take_eq_of_id hown]
      · exact absurd hfault (hheard fault hgaveUp)

/-! ## What the resolver makes of an answer -/

variable {query : Option Message} {key : Option String} {course : List Happening}
  {result : Option Bytes}

theorem RefusalCourse.counts (h : RefusalCourse options request course result) :
    ∀ happening ∈ course, ∃ counter, happening = .counted counter := by
  cases h <;> simp

theorem FitCourse.counts (h : FitCourse options request query response course result) :
    ∀ happening ∈ course, ∃ counter, happening = .counted counter := by
  cases h with
  | whole => simp
  | shortened => simp
  | refused _ hrefused => exact hrefused.counts

/-- What a response is made to fit, if it can. -/
def fitted (options : Options) (query : Option Message) (response : Bytes) : Option Bytes :=
  match query with
  | none => some response
  | some asked => (Message.truncateFor (replyLimit options asked) response).toOption

theorem fitted_of_le (hfits : ∀ asked ∈ query, response.length ≤ replyLimit options asked) :
    fitted options query response = some response := by
  cases query with
  | none => rfl
  | some asked =>
      rw [fitted, Message.truncateFor, if_pos (hfits asked rfl)]
      rfl

theorem FitCourse.cases (h : FitCourse options request query response course result) :
    (∃ reply, fitted options query response = some reply ∧ result = some reply) ∨
      fitted options query response = none ∧ RefusalCourse options request course result := by
  cases h with
  | whole hfits => exact Or.inl ⟨response, fitted_of_le hfits, rfl⟩
  | shortened hquery _ hreply =>
      refine Or.inl ⟨_, ?_, rfl⟩
      rw [hquery, fitted, hreply]
      rfl
  | refused hstuck hrefused =>
      obtain ⟨asked, rfl, _, hnot⟩ := stuck_eq_true_iff.mp hstuck
      refine Or.inr ⟨?_, hrefused⟩
      cases hreply : Message.truncateFor (replyLimit options asked) response with
      | ok reply => exact absurd hreply (hnot reply)
      | error fault =>
          rw [fitted, hreply]
          rfl

/-- What becomes of an answer: the request is refused, or the accepted response fitted. -/
inductive Answered (options : Options) (request : Bytes) (answer : Except Fault Bytes) :
    Option Bytes → Prop
  | failed {course : List Happening} {result : Option Bytes}
      (hfault : ∀ response, acceptAnswer request answer ≠ .ok response)
      (hrefused : RefusalCourse options request course result) :
      Answered options request answer result
  | passed {response : Bytes} {course : List Happening} {result : Option Bytes}
      (haccepted : acceptAnswer request answer = .ok response)
      (hfit : FitCourse options request (Message.decode? request) response course result) :
      Answered options request answer result

theorem exchanges_of_counts (h : ∀ happening ∈ course, ∃ counter, happening = .counted counter) :
    course.filterMap Happening.exchange? = [] := by
  refine List.filterMap_eq_nil_iff.mpr fun happening hmem => ?_
  obtain ⟨counter, rfl⟩ := h happening hmem
  rfl

theorem onCache_of_counts (h : ∀ happening ∈ course, ∃ counter, happening = .counted counter) :
    ∀ happening ∈ course, happening.onCache = false := by
  intro happening hmem
  obtain ⟨counter, rfl⟩ := h happening hmem
  rfl

theorem ForwardCourse.exchange
    (h : ForwardCourse options request (Message.decode? request) key course result) :
    ∃ answer, course.filterMap Happening.exchange? = [(request, answer)] ∧
      Answered options request answer result := by
  cases h with
  | @failed answer rest _ hfault hrefused =>
      have hexchanges := exchanges_of_counts hrefused.counts
      exact ⟨answer, congrArg (List.cons (request, answer)) hexchanges, .failed hfault hrefused⟩
  | @passed answer response rest _ haccepted hfit =>
      have hexchanges := exchanges_of_counts hfit.counts
      exact ⟨answer, congrArg (List.cons (request, answer)) hexchanges, .passed haccepted hfit⟩
  | @kept answer response name lifetime rest _ haccepted _ _ hfit =>
      have hexchanges := exchanges_of_counts hfit.counts
      exact ⟨answer, congrArg (List.cons (request, answer)) hexchanges, .passed haccepted hfit⟩

/-- A request that is not answered from the cache is forwarded as it came, once. -/
theorem HandleCourse.exchange (h : HandleCourse options request course result)
    (hlong : Datagram.headerLength ≤ request.length) (hnot : .counted .cacheHit ∉ course) :
    ∃ answer, course.filterMap Happening.exchange? = [(request, answer)] ∧
      Answered options request answer result := by
  cases h with
  | short hshort => exact absurd hlong (Nat.not_le.mpr hshort)
  | unkeyed _ _ hforward => exact hforward.exchange
  | hit => simp at hnot
  | miss hquery _ _ hforward =>
      rw [← hquery] at hforward
      exact hforward.exchange
  | unusable hquery _ _ hforward =>
      rw [← hquery] at hforward
      exact hforward.exchange

theorem ForwardCourse.onCache (h : ForwardCourse options request query none course result) :
    ∀ happening ∈ course, happening.onCache = false := by
  cases h with
  | failed _ hrefused =>
      have hquiet := onCache_of_counts hrefused.counts
      simpa [Happening.onCache] using hquiet
  | passed _ hfit =>
      have hquiet := onCache_of_counts hfit.counts
      simpa [Happening.onCache] using hquiet
  | kept _ hkey => cases hkey

/-- The cache is not called for a request without a key. -/
theorem HandleCourse.onCache (h : HandleCourse options request course result)
    (hunkeyed : (Message.decode? request).bind Cache.requestKey? = none) :
    ∀ happening ∈ course, happening.onCache = false := by
  cases h with
  | short => simp [Happening.onCache]
  | unkeyed _ _ hforward => simpa [Happening.onCache] using hforward.onCache
  | hit hquery hkey | miss hquery hkey | unusable hquery hkey =>
      rw [hquery, Option.bind_some, hkey] at hunkeyed
      cases hunkeyed

/-- A response that has the ID of the request already is accepted as it is. -/
theorem acceptAnswer_inReplyTo (hrequest : 2 ≤ request.length)
    (hlong : Datagram.headerLength ≤ response.length) :
    acceptAnswer request (.ok (inReplyTo request response)) =
      .ok (inReplyTo request response) := by
  have hlength := Datagram.length_inReplyTo hrequest (Nat.le_trans (by decide) hlong)
  exact acceptAnswer_eq_ok_iff.mpr ⟨hrequest, inReplyTo request response, rfl, hlength ▸ hlong,
    (Datagram.inReplyTo_inReplyTo hrequest).symm⟩

theorem Answered.refused {fault : Fault} (h : Answered options request (.error fault) result) :
    ∃ course, RefusalCourse options request course result := by
  cases h with
  | failed _ hrefused => exact ⟨_, hrefused⟩
  | passed haccepted =>
      obtain ⟨_, _, hnot, _⟩ := acceptAnswer_eq_ok_iff.mp haccepted
      cases hnot

theorem Answered.fit (h : Answered options request (.ok (inReplyTo request response)) result)
    (hrequest : 2 ≤ request.length) (hlong : Datagram.headerLength ≤ response.length) :
    ∃ course, FitCourse options request (Message.decode? request) (inReplyTo request response)
      course result := by
  have haccepted := acceptAnswer_inReplyTo hrequest hlong
  cases h with
  | failed hfault => exact absurd haccepted (hfault _)
  | passed hother hfit =>
      obtain rfl := Except.ok.inj (haccepted.symm.trans hother)
      exact ⟨_, hfit⟩

/-- A response that fits is the reply. -/
theorem Answered.reply_eq (h : Answered options request (.ok (inReplyTo request response)) result)
    (hrequest : 2 ≤ request.length) (hlong : Datagram.headerLength ≤ response.length)
    (hfits : ∀ query ∈ Message.decode? request, response.length ≤ replyLimit options query) :
    result = some (inReplyTo request response) := by
  have hdata : 2 ≤ response.length := Nat.le_trans (by decide) hlong
  have hwhole : fitted options (Message.decode? request) (inReplyTo request response) =
      some (inReplyTo request response) :=
    fitted_of_le (by rwa [Datagram.length_inReplyTo hrequest hdata])
  obtain ⟨course, hfit⟩ := h.fit hrequest hlong
  rcases hfit.cases with ⟨reply, hreply, hresult⟩ | ⟨hnone, _⟩
  · rw [hresult, ← hreply, hwhole]
  · cases hnone.symm.trans hwhole

/-! ## Without the cache -/

/-- Until it ends, a request without a key leaves the cache as it is. -/
theorem cache_advance (hunkeyed : (Message.decode? request).bind Cache.requestKey? = none)
    {traffic : Traffic} (hquiet : traffic.calls = []) (moves : List Move) {index : Nat}
    {call : Call}
    (hcall : (traffic.run options moves).calls[index]? = some call)
    (hrequest : call.request = request) (around : Surroundings) :
    ((traffic.run options moves).move options (.advance index around)).shared.cache =
      (traffic.run options moves).shared.cache := by
  have hcourses := @Traffic.forall_calls_run options traffic (fun asked rest =>
    asked = request → rest.Courses fun course _ =>
      ∀ happening ∈ course, happening.onCache = false) hquiet ?_ ?_ moves call
    (List.mem_of_getElem? hcall) hrequest
  · rw [Traffic.move_advance hcall]
    exact hcourses.cache_step around _
  · rintro asked rfl
    exact (handle_courses options asked).mono fun _ _ hcourse => hcourse.onCache hunkeyed
  · intro asked rest around shared hrest hasked
    exact ((hrest hasked).step around shared).mono fun _ _ hquiet happening hmem =>
      hquiet happening (List.mem_append_right _ hmem)

end Resolver

end DnsForwarder
