import DnsForwarder.Proofs.Resolver.Exchange
import DnsForwarder.Proofs.Resolver.Fitting
import DnsForwarder.Proofs.Resolver.Identity

/-!
# Forwarding changes only the ID

A request that is not answered from the cache reaches the server as it came but for its first
two bytes, and the response of the server reaches the client as it came but for its first two
bytes, if it does not have to be shortened (`Transparent`).

Two requests that differ in their ID only are compared course by course.  What is refused or
sent whole differs in its first two bytes only.  What has to be shortened is read before, and
then the ID may matter: a name can be a pointer to offset 0.  `not_sameButId_pointer` is a pair
of requests that get replies of different lengths for this reason.
-/

namespace DnsForwarder

namespace Resolver

open Datagram (inReplyTo)

variable {options : Options} {request response : Bytes}

/-! ## Two requests that differ in their ID -/

/-- There is no reply, or the replies differ in their first two bytes only, which are those of
the requests. -/
def SameButId (first second : Bytes) (reply other : Option Bytes) : Prop :=
  reply = none ∧ other = none ∨
    ∃ body, reply = some (first.take 2 ++ body) ∧ other = some (second.take 2 ++ body)

theorem SameButId.whole {first second : Bytes} (response : Bytes) :
    SameButId first second (some (inReplyTo first response)) (some (inReplyTo second response)) :=
  Or.inr ⟨response.drop 2, rfl, rfl⟩

/-- Neither response has to be shortened, or requests and responses read alike. -/
def FitAlike (options : Options) (first second response : Bytes) : Prop :=
  (∀ data ∈ [first, second], ∀ query ∈ Message.decode? data,
      response.length ≤ replyLimit options query) ∨
    Message.ReadAlike first second ∧
      Message.ReadAlike (inReplyTo first response) (inReplyTo second response)

/-- Whatever the server responds to the body of both requests is fitted alike. -/
def AnswersAlike (options : Options) (first second : Bytes) (server : Bytes → Doh.Outcome) :
    Prop :=
  ∀ status response, server (Wire.bytes16 0 ++ first.drop 2) = .answered status response →
    Doh.isSuccess status = true → Datagram.headerLength ≤ response.length →
    FitAlike options first second response

theorem refusal_eq {reply : Bytes} (h : Datagram.refusal request = .ok reply) :
    ∃ flags rest, request.drop 2 = flags :: rest ∧
      reply = request.take 2 ++ Datagram.refusalFlags flags :: 130 :: List.replicate 8 0 := by
  match request with
  | [] | [_] | [_, _] => cases h
  | hi :: lo :: flags :: rest =>
      unfold Datagram.refusal at h
      dsimp only at h
      split at h
      · cases h
      · exact ⟨flags, rest, rfl, (Except.ok.inj h).symm⟩

variable {first second : Bytes} {firstCourse secondCourse : List Happening}
  {reply other : Option Bytes}

theorem RefusalCourse.sameButId (h : RefusalCourse options first firstCourse reply)
    (h' : RefusalCourse options second secondCourse other)
    (hsame : first.drop 2 = second.drop 2) : SameButId first second reply other := by
  cases h with
  | silent hoff =>
      cases h' with
      | silent => exact Or.inl ⟨rfl, rfl⟩
      | refused hon => cases hoff.symm.trans hon
  | refused hon hreply =>
      cases h' with
      | silent hoff => cases hoff.symm.trans hon
      | refused _ hother =>
          obtain ⟨flags, rest, hflags, rfl⟩ := refusal_eq hreply
          obtain ⟨flags', rest', hflags', rfl⟩ := refusal_eq hother
          obtain ⟨rfl, rfl⟩ := List.cons.inj (hflags.symm.trans (hsame.trans hflags'))
          exact Or.inr ⟨_, rfl, rfl⟩

theorem fitted_alike (halike : FitAlike options first second response) (hfirst : 2 ≤ first.length)
    (hsecond : 2 ≤ second.length) (hresponse : 2 ≤ response.length) :
    SameButId first second
      (fitted options (Message.decode? first) (inReplyTo first response))
      (fitted options (Message.decode? second) (inReplyTo second response)) := by
  rcases halike with hfits | ⟨hrequests, hresponses⟩
  · have hfirstLength := Datagram.length_inReplyTo hfirst hresponse
    have hsecondLength := Datagram.length_inReplyTo hsecond hresponse
    rw [fitted_of_le (hfirstLength ▸ hfits first (by simp)),
      fitted_of_le (hsecondLength ▸ hfits second (by simp))]
    exact .whole response
  · rcases hrequests.cases with ⟨hnone, hnone'⟩ | ⟨query, id, hquery, hother⟩
    · rw [hnone, hnone']
      exact .whole response
    · -- the limit does not depend on the ID
      have hlimit : replyLimit options (query.withId id) = replyLimit options query := rfl
      rw [hquery, hother, fitted, fitted, hlimit]
      rcases Message.truncateFor_inReplyTo hfirst hsecond hresponse (replyLimit options query)
        hresponses with ⟨fault, hreply, hother⟩ | ⟨body, hreply, hother⟩
      · rw [hreply, hother]
        exact Or.inl ⟨rfl, rfl⟩
      · rw [hreply, hother]
        exact Or.inr ⟨body, rfl, rfl⟩

/-- Answers of a server over HTTPS that was sent the same body twice. -/
theorem Answered.sameButId {server : Bytes → Doh.Outcome}
    (h : Answered options first (Doh.resolve server first) reply)
    (h' : Answered options second (Doh.resolve server second) other)
    (hfirst : 2 ≤ first.length) (hsecond : 2 ≤ second.length)
    (hsame : first.drop 2 = second.drop 2) (halike : AnswersAlike options first second server) :
    SameButId first second reply other := by
  obtain ⟨id, hid, _, hresolve⟩ := Doh.resolve_eq hfirst
  obtain ⟨id', hid', _, hresolve'⟩ := Doh.resolve_eq hsecond
  rw [hresolve] at h
  rw [hresolve', ← hsame] at h'
  rcases Doh.finish_cases (server (Wire.bytes16 0 ++ first.drop 2)) with
    ⟨status, response, hserver, hsuccess, hlong⟩ | ⟨fault, hfault⟩
  · have hdata : 2 ≤ response.length := Nat.le_trans (by decide) hlong
    rw [hserver, Doh.finish_of_success hsuccess hlong, ← Datagram.take_eq_of_id hid] at h
    rw [hserver, Doh.finish_of_success hsuccess hlong, ← Datagram.take_eq_of_id hid'] at h'
    obtain ⟨course, hfit⟩ := h.fit hfirst hlong
    obtain ⟨course', hfit'⟩ := h'.fit hsecond hlong
    have hfitted := fitted_alike (halike status response hserver hsuccess hlong) hfirst hsecond
      hdata
    rcases hfit.cases with ⟨fits, hfits, rfl⟩ | ⟨hnone, hrefused⟩ <;>
      rcases hfit'.cases with ⟨fits', hfits', rfl⟩ | ⟨hnone', hrefused'⟩
    · rwa [hfits, hfits'] at hfitted
    · rw [hfits, hnone'] at hfitted
      rcases hfitted with ⟨hnot, _⟩ | ⟨_, _, hnot⟩ <;> cases hnot
    · rw [hnone, hfits'] at hfitted
      rcases hfitted with ⟨_, hnot⟩ | ⟨_, hnot, _⟩ <;> cases hnot
    · exact hrefused.sameButId hrefused' hsame
  · rw [hfault] at h h'
    obtain ⟨course, hrefused⟩ := h.refused
    obtain ⟨course', hrefused'⟩ := h'.refused
    exact hrefused.sameButId hrefused' hsame

/-- Two requests with the same answer of the server get the same reply but for the ID. -/
theorem HandleCourse.sameButId {server : Bytes → Doh.Outcome}
    (h : HandleCourse options first firstCourse reply)
    (h' : HandleCourse options second secondCourse other)
    (hfirst : Datagram.headerLength ≤ first.length)
    (hsecond : Datagram.headerLength ≤ second.length) (hsame : first.drop 2 = second.drop 2)
    (halike : AnswersAlike options first second server)
    (hnot : .counted .cacheHit ∉ firstCourse) (hnot' : .counted .cacheHit ∉ secondCourse)
    (hasked : firstCourse.filterMap Happening.exchange? = [(first, Doh.resolve server first)])
    (hasked' : secondCourse.filterMap Happening.exchange? =
      [(second, Doh.resolve server second)]) :
    SameButId first second reply other := by
  obtain ⟨answer, hexchange, hanswered⟩ := h.exchange hfirst hnot
  obtain ⟨answer', hexchange', hanswered'⟩ := h'.exchange hsecond hnot'
  obtain rfl : answer = Doh.resolve server first := by
    simpa using hexchange.symm.trans hasked
  obtain rfl : answer' = Doh.resolve server second := by
    simpa using hexchange'.symm.trans hasked'
  exact hanswered.sameButId hanswered' (Nat.le_trans (by decide) hfirst)
    (Nat.le_trans (by decide) hsecond) hsame halike

/-! ## Every request -/

/-- How a request is forwarded that is not answered from the cache. -/
structure Transparent (options : Options) (request : Bytes) : Prop where
  /-- Over HTTPS it is posted with ID zero. -/
  posted : ∃ id, Doh.prepare request = .ok (id, Wire.bytes16 0 ++ request.drop 2) ∧
    ∀ server, Doh.resolve server request =
      Doh.finish id (server (Wire.bytes16 0 ++ request.drop 2))
  /-- Over UDP it is sent with the ID that it was registered under before. -/
  transmitted : ∀ (server : SocketAddress) (timeoutMilliseconds : Nat) (steps : List Udp.Step)
    (client : Udp.Client) (place : Nat) (call : Udp.Call) (datagram : Bytes),
    (Udp.Client.idle server timeoutMilliseconds).run steps = some client →
    client.calls[place]? = some call → call.query = request →
    .sent place datagram ∈ (Udp.Client.idle server timeoutMilliseconds).log steps →
    datagram = Wire.bytes16 call.wireId ++ request.drop 2 ∧
      [.registered place request call.wireId, .sent place datagram].Sublist
        ((Udp.Client.idle server timeoutMilliseconds).log steps)
  /-- A call that waits can return the response at once. -/
  taken : ∀ (server : SocketAddress) (timeoutMilliseconds : Nat) (steps : List Udp.Step)
    (client : Udp.Client) (place : Nat) (call : Udp.Call) (response : Bytes),
    (Udp.Client.idle server timeoutMilliseconds).run steps = some client →
    client.calls[place]? = some call → call.query = request → call.stage = .waiting →
    (call.wireId, place) ∈ client.pending → client.held = none →
    Datagram.isResponse response = true → Datagram.id response = .ok call.wireId →
    ∃ last, client.run [.arrive response, .handOver, .take place] = some last ∧
      last.result? place = some (.ok (inReplyTo request response))
  /-- It is forwarded once and as it came.  The response becomes the reply, with the ID of the
  request, if the request is unreadable or the response fits. -/
  forwarded : (handle options request).Courses fun course reply =>
    .counted .cacheHit ∉ course →
      ∃ answer, course.filterMap Happening.exchange? = [(request, answer)] ∧
        ∀ response, Relays request response answer →
          Datagram.headerLength ≤ response.length →
          (∀ query ∈ Message.decode? request, response.length ≤ replyLimit options query) →
          reply = some (inReplyTo request response)
  /-- Without a key, no step for it changes the cache, whatever else is going on. -/
  unkeyed : (Message.decode? request).bind Cache.requestKey? = none →
    ∀ (shared : Shared) (moves : List Move) (index : Nat) (call : Call) (around : Surroundings),
      (Traffic.run options { shared } moves).calls[index]? = some call →
      call.request = request →
      ((Traffic.run options { shared } moves).move options
          (.advance index around)).shared.cache =
        (Traffic.run options { shared } moves).shared.cache
  /-- With another ID it is posted as the same body.  If the server answers that in the same
  way, and all reads alike or fits, the replies differ in their ID only. -/
  renumbered : ∀ other : Bytes, other.drop 2 = request.drop 2 →
    (∃ id, Doh.prepare other = .ok (id, Wire.bytes16 0 ++ request.drop 2)) ∧
      ∀ server : Bytes → Doh.Outcome, AnswersAlike options request other server →
        (handle options request).Courses fun course reply =>
          (handle options other).Courses fun otherCourse otherReply =>
            .counted .cacheHit ∉ course → .counted .cacheHit ∉ otherCourse →
            course.filterMap Happening.exchange? = [(request, Doh.resolve server request)] →
            otherCourse.filterMap Happening.exchange? = [(other, Doh.resolve server other)] →
            SameButId request other reply otherReply

/-- **Forwarding is transparent.**  Whatever a request of at least twelve bytes contains, only
its ID is changed on the way to the server, and only the ID of the response on the way back. -/
theorem forwarding_transparent (options : Options) (request : Bytes)
    (hlong : Datagram.headerLength ≤ request.length) : Transparent options request := by
  have hrequest : 2 ≤ request.length := Nat.le_trans (by decide) hlong
  obtain ⟨id, hid, hprepare, hresolve⟩ := Doh.resolve_eq hrequest
  constructor
  case posted => exact ⟨id, hprepare, hresolve⟩
  case transmitted =>
    rintro server timeoutMilliseconds steps client place call datagram hrun hcall rfl hsent
    obtain ⟨same, hsame, hdatagram, hlog⟩ := Udp.Client.sent_of_run _ _ hrun place datagram hsent
    obtain rfl := Option.some.inj (hsame.symm.trans hcall)
    exact ⟨hdatagram, hlog⟩
  case taken =>
    rintro server timeoutMilliseconds steps client place call response hrun hcall rfl hwaiting
      hlisted hfree hresponse hwireId
    obtain ⟨horderly, _, hrecorded⟩ := Udp.Client.recorded_of_run _ _ hrun
    have hown := (hrecorded.calls place call hcall).id_query (by simp [hwaiting])
    rw [inReplyTo, Datagram.take_eq_of_id hown]
    exact Udp.Client.take_of_arrive horderly hcall hwaiting hlisted hfree hresponse hwireId
  case forwarded =>
    refine (handle_courses options request).mono fun course reply hcourse hnot => ?_
    obtain ⟨answer, hexchange, hanswered⟩ := hcourse.exchange hlong hnot
    refine ⟨answer, hexchange, fun response hrelays hresponse hfits => ?_⟩
    rw [hrelays.answer_eq hrequest hresponse] at hanswered
    exact hanswered.reply_eq hrequest hresponse hfits
  case unkeyed =>
    intro hunkeyed shared moves index call around hcall hasked
    exact cache_advance hunkeyed rfl moves hcall hasked around
  case renumbered =>
    intro other hsame
    have hlength : other.length = request.length := by
      have hdropped := congrArg List.length hsame
      rw [List.length_drop, List.length_drop] at hdropped
      have : 12 ≤ request.length := hlong
      omega
    have hother : Datagram.headerLength ≤ other.length := hlength ▸ hlong
    obtain ⟨otherId, _, hposted, _⟩ := Doh.resolve_eq (Nat.le_trans (by decide) hother)
    refine ⟨⟨otherId, hsame ▸ hposted⟩, fun server halike => ?_⟩
    refine (handle_courses options request).mono fun course reply hcourse => ?_
    refine (handle_courses options other).mono fun otherCourse otherReply hotherCourse => ?_
    exact hcourse.sameButId hotherCourse hlong hother hsame.symm halike

/-- What a server responds that does not implement the opcode of the strange request. -/
def strangeResponse (high low : UInt8) : Bytes := [high, low, 248, 4, 0, 0, 0, 0, 0, 0, 0, 0]

/-- The strange request has been sent over UDP with the ID 5. -/
def waitingClient : Udp.Client where
  server := .v4 .loopback 53
  timeoutMilliseconds := 100
  calls := [⟨strangeRequest, 1801, 5, .waiting, .awaiting⟩]
  pending := [(5, 0)]
  wire := [Wire.bytes16 5 ++ strangeRequest.drop 2]

/-- A request that cannot be read gets the response of the server with its own ID. -/
theorem forwarding_transparent_strange :
    Datagram.headerLength ≤ strangeRequest.length ∧ Message.decode? strangeRequest = none ∧
      (Udp.Client.idle (.v4 .loopback 53) 100).run
        [.register strangeRequest 5, .transmit 0 none] = some waitingClient ∧
      Relays strangeRequest (strangeResponse 0 5) (.ok (strangeResponse 7 9)) ∧
      (handle strangeOptions strangeRequest).Courses fun course reply =>
        .counted .cacheHit ∉ course →
        course.filterMap Happening.exchange? = [(strangeRequest, .ok (strangeResponse 7 9))] →
        reply = some (strangeResponse 7 9) := by
  have hlong : Datagram.headerLength ≤ strangeRequest.length := by decide
  have hunreadable : Message.decode? strangeRequest = none := by cbv
  have hrun : (Udp.Client.idle (.v4 .loopback 53) 100).run
      [.register strangeRequest 5, .transmit 0 none] = some waitingClient := rfl
  have hcall : waitingClient.calls[0]? = some ⟨strangeRequest, 1801, 5, .waiting, .awaiting⟩ := rfl
  have htransparent := forwarding_transparent strangeOptions strangeRequest hlong
  obtain ⟨last, hlater, hresult⟩ := htransparent.taken _ _ _ waitingClient 0 _
    (strangeResponse 0 5) hrun hcall rfl rfl (List.mem_singleton_self _) rfl rfl rfl
  have hrelays : Relays strangeRequest (strangeResponse 0 5) (.ok (strangeResponse 7 9)) :=
    .udp hrun hcall rfl rfl (List.mem_singleton_self _) rfl rfl hlater hresult (by simp)
  refine ⟨hlong, hunreadable, hrun, hrelays, htransparent.forwarded.mono ?_⟩
  intro course reply hforwarded hnot hasked
  obtain ⟨answer, hexchange, hreply⟩ := hforwarded hnot
  obtain rfl : answer = .ok (strangeResponse 7 9) := by
    simpa using hexchange.symm.trans hasked
  exact hreply _ hrelays (by decide) (by simp [hunreadable])

/-- A request for a name that is a pointer to offset 0. -/
def pointerRequest (high low : UInt8) : Bytes :=
  [high, low, 1, 0, 0, 1, 0, 0, 0, 0, 0, 0, 192, 0, 0, 1, 0, 1]

/-- The server answers every body with the long response. -/
def longWinded : Surroundings where
  now := 0
  remote := Doh.resolve fun _ => .answered 200 longResponse

theorem length_longResponse : 512 < longResponse.length := by
  rw [longResponse, List.length_append, List.length_flatten, List.map_replicate,
    List.sum_replicate_nat]
  decide

theorem lookup_start (key : String) (hit : Hit) :
    Traffic.start.shared.lookup longWinded.now key ≠ .ok (some hit) :=
  fun hfound => nomatch hfound

theorem accepted_longWinded (high low : UInt8) :
    acceptAnswer (pointerRequest high low) (longWinded.remote (pointerRequest high low)) =
      .ok (inReplyTo (pointerRequest high low) longResponse) := by
  have hrequest : 2 ≤ (pointerRequest high low).length := by simp [pointerRequest]
  have hlong : Datagram.headerLength ≤ longResponse.length :=
    Nat.le_trans (by decide) length_longResponse.le
  have hrelays : Relays (pointerRequest high low) longResponse
      (longWinded.remote (pointerRequest high low)) :=
    @Relays.https _ _ (fun _ => .answered 200 longResponse) 200 rfl rfl
  rw [hrelays.answer_eq hrequest hlong, acceptAnswer_inReplyTo hrequest hlong]

/-- Under the ID 1 the name is the root, and the response is shortened. -/
theorem reply_pointer_root :
    ((handle wideOptions (pointerRequest 0 1)).run longWinded Traffic.start.shared).1 =
      some [0, 1, 131, 128, 0, 1, 0, 0, 0, 0, 0, 0, 1, 97, 0, 0, 1, 0, 1] := by
  obtain ⟨query, key, hquery, hkey, hlimit⟩ : ∃ query key,
      Message.decode? (pointerRequest 0 1) = some query ∧ Cache.requestKey? query = some key ∧
        replyLimit wideOptions query = 512 :=
    ⟨{ typeQuery 1 1 with questions := [⟨.root, .a, ⟨1⟩⟩] }, _, by cbv, rfl, by decide⟩
  have hsame : inReplyTo (pointerRequest 0 1) longResponse = longResponse := by
    rw [longResponse]
    rfl
  have hencode : longMessage.shortened.encode? =
      some [0, 1, 131, 128, 0, 1, 0, 0, 0, 0, 0, 0, 1, 97, 0, 0, 1, 0, 1] := by cbv
  have hshortened := (Message.truncateFor_eq_ok_iff length_longResponse).mpr
    ⟨longMessage, decode?_longResponse, hencode⟩
  obtain ⟨after, _, hfitted, _⟩ := @run_forward wideOptions (pointerRequest 0 1) longWinded
    Traffic.start.shared (some query) (some key) longResponse (hsame ▸ accepted_longWinded 0 1)
  rw [← hlimit] at hshortened
  rw [fit_of_truncateFor (hlimit ▸ Nat.not_le.mpr length_longResponse) hshortened] at hfitted
  exact (reply_of_forwarded hquery hkey (fun hit _ hfound => absurd hfound (lookup_start key hit))
    Traffic.start.shared).trans hfitted

/-- Under the ID 65535 there is no name, and the response is sent whole. -/
theorem reply_pointer_nowhere :
    ((handle wideOptions (pointerRequest 255 255)).run longWinded Traffic.start.shared).1 =
      some (inReplyTo (pointerRequest 255 255) longResponse) := by
  obtain ⟨after, _, hfitted, _⟩ := @run_forward wideOptions (pointerRequest 255 255) longWinded
    (Traffic.start.shared.count .received) none none _ (accepted_longWinded 255 255)
  rw [handle_of_unreadable (by decide) (by cbv), Action.run, hfitted]
  rfl

/-- The same request under two IDs, with the same answer of the server: one reply is shortened,
and the other one is not. -/
theorem not_sameButId_pointer :
    (pointerRequest 0 1).drop 2 = (pointerRequest 255 255).drop 2 ∧
      (∀ request key, ¬ AnsweredFromCache wideOptions longWinded Traffic.start.shared request key) ∧
      ¬ SameButId (pointerRequest 0 1) (pointerRequest 255 255)
        ((handle wideOptions (pointerRequest 0 1)).run longWinded Traffic.start.shared).1
        ((handle wideOptions (pointerRequest 255 255)).run longWinded Traffic.start.shared).1 := by
  refine ⟨rfl, fun request key hanswered => ?_, ?_⟩
  · obtain ⟨_, hit, _, _, hfound⟩ := exists_hit_of_answeredFromCache hanswered
    exact lookup_start key hit hfound
  rw [reply_pointer_root, reply_pointer_nowhere]
  rintro (⟨hnone, _⟩ | ⟨body, hreply, hother⟩)
  · cases hnone
  · -- the one body would be as long as the other one
    obtain rfl : [131, 128, 0, 1, 0, 0, 0, 0, 0, 0, 1, 97, 0, 0, 1, 0, 1] = body := by
      simpa [pointerRequest] using hreply
    have hlength := congrArg List.length (Option.some.inj hother)
    have hlong := length_longResponse
    rw [Datagram.length_inReplyTo (by decide) (by omega)] at hlength
    exact absurd hlong (by rw [hlength]; decide)

end Resolver

end DnsForwarder
