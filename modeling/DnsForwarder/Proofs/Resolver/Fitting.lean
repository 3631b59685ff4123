import DnsForwarder.Proofs.Cache.Key
import DnsForwarder.Proofs.Message.Aging
import DnsForwarder.Proofs.Message.Shortening
import DnsForwarder.Proofs.Resolver.Contract
import DnsForwarder.Proofs.Resolver.Provenance
import DnsForwarder.Proofs.Settings.Check

/-!
# How large a reply is

A reply to a readable request fits into what the client takes, with one exception.  A
response that is too large is shortened to its header, its questions and its OPT record,
and what that takes is not compared with the limit again (`Bare`).  Nothing bounds the
number of questions in a response or the size of its options, so such a reply may be larger
than the client takes; `not_fits_padded` is a response with long padding.

`handle_honours_fitting` is the case analysis: a reply is a response that fits, a refusal of
twelve bytes, or a bare answer.  If every accepted answer is `Slim`, bare answers fit as well.
-/

namespace DnsForwarder

/-- A refusal is a header alone. -/
theorem Datagram.length_refusal {request out : Bytes} (h : refusal request = .ok out) :
    out.length = headerLength := by
  unfold refusal at h
  split at h
  · split at h
    · cases h
    · cases h
      rfl
  · cases h

theorem Message.smallestPayload_le_payloadLimit (query : Message) :
    smallestPayload ≤ query.payloadLimit := by
  unfold payloadLimit
  split
  · exact Nat.le_max_right _ _
  · exact Nat.le_refl _

/-- What is checked about the largest response. -/
theorem Settings.largestPayload_of_check {settings : Settings} (h : settings.check = .ok ()) :
    smallestPayload ≤ settings.listening.largestPayload.toNat := by
  have hlistening := ((check_eq_ok_iff settings).mp h).1
  unfold Listening.check at hlistening
  by_cases hsmall : settings.listening.largestPayload.toNat < 512
  · exfalso
    cases hempty : settings.listening.bindAddresses.isEmpty <;>
      simp [hempty, hsmall, bind, Except.bind, throw, throwThe, MonadExceptOf.throw] at hlistening
  · exact Nat.not_lt.mp hsmall

namespace Resolver

variable {options : Options} {answers : List Answer} {request : Bytes}

/-- `reply` is an accepted answer without its records; if the answer comes from the cache,
it has the question of `query`, and it has lost its extension if there was no room for that. -/
def Bare (answers : List Answer) (query : Message) (reply : Bytes) : Prop :=
  ∃ answer ∈ answers, ∃ (data : Bytes) (kept message : Message),
    acceptAnswer answer.request (.ok answer.response) = .ok data ∧
    Message.decode? data = some kept ∧
    (message.questions = kept.questions ∨
      ∃ question, query.questions = [question] ∧ message.questions = [question]) ∧
    (message.edns = kept.edns ∨ message.edns = none) ∧ message.shortened.encode? = some reply

/-- What a client gets for a request: a reply that fits, or a bare answer. -/
def fitting (options : Options) (answers : List Answer) (request : Bytes) :
    Action.Contract (Option Bytes) where
  hears := fun response => ⟨request, response⟩ ∈ answers
  finds := fun _ hit => ∃ answer ∈ answers,
    acceptAnswer answer.request (.ok answer.response) = .ok hit.data
  ends := fun result => ∀ query reply, Message.decode? request = some query →
    result = some reply → reply.length ≤ replyLimit options query ∨ Bare answers query reply

theorem assumes_fitting (options : Options) (answers : List Answer) (request : Bytes) :
    Assumes options answers request (fitting options answers request) :=
  ⟨fun _ hanswer => hanswer, fun answer hanswer _ _ _ horigin =>
    ⟨answer, hanswer, horigin.accepted⟩⟩

/-- The reply is a response that fits, a bare answer or a refusal. -/
theorem handle_honours_fitting (hlargest : smallestPayload ≤ options.largestPayload)
    (request : Bytes) : (handle options request).Honours (fitting options answers request) := by
  have hnone : (fitting options answers request).ends none := fun _ _ _ hreply => nomatch hreply
  have hrefuse : (refuse options request).Honours (fitting options answers request) := by
    refine refuse_honours hnone fun refusal hrefusal query reply _ hreply => Or.inl ?_
    obtain rfl := Option.some.inj hreply
    calc
      refusal.length = Datagram.headerLength := Datagram.length_refusal hrefusal
      _ ≤ smallestPayload := by decide
      _ ≤ replyLimit options query :=
        Nat.le_min.mpr ⟨query.smallestPayload_le_payloadLimit, hlargest⟩
  have hfit : ∀ query response, Message.decode? request = query →
      (∀ asked ∈ query, ∀ message, Message.decode? response = some message →
        ∀ reply, message.shortened.encode? = some reply → Bare answers asked reply) →
      (fit options request query response).Honours (fitting options answers request) := by
    intro query response hquery hbare
    refine fit_honours (fun hfits asked reply hasked hreply => Or.inl ?_) ?_ fun _ _ _ => hrefuse
    · obtain rfl := Option.some.inj hreply
      exact hfits asked (hquery.symm.trans hasked)
    · rintro asked hasked message shortened - hmessage hencode other reply hother hreply
      obtain rfl := Option.some.inj hreply
      obtain rfl := Option.some.inj ((hquery.trans hasked).symm.trans hother)
      exact Or.inr (hbare asked hasked message hmessage shortened hencode)
  refine handle_honours hnone (fun query key hquery => forward_honours hrefuse ?_) ?_
  · intro response data hanswer haccepted
    refine hfit query data hquery fun asked _ message hmessage reply hreply => ?_
    exact ⟨⟨request, response⟩, hanswer, data, message, message, haccepted, hmessage, Or.inl rfl,
      Or.inl rfl, hreply⟩
  · rintro query key hit hquery hkey ⟨answer, hanswer, haccepted⟩
    cases hage : Message.age hit.data hit.age query with
    | error fault => exact Or.inr ⟨⟨fault, rfl⟩, trivial⟩
    | ok response =>
        refine Or.inl ⟨response, rfl, trivial, hfit (some query) response hquery ?_⟩
        rintro asked ⟨⟩ message hmessage reply hreply
        obtain ⟨question, _, hquestion, _⟩ := Cache.requestKey?_eq_some_iff.mp hkey
        obtain ⟨kept, hkept⟩ := Message.exists_kept_of_age hage
        obtain ⟨read, hread, hleft⟩ :=
          Message.exists_leftOf_of_age hkept (Message.decode?_readable hquery) hage
        obtain rfl := Option.some.inj (hmessage.symm.trans hread)
        exact ⟨answer, hanswer, hit.data, kept, message, haccepted, hkept,
          Or.inr ⟨question, hquestion, hleft.questions.trans hquestion⟩, hleft.edns, hreply⟩

/-! ## Every run -/

/-- A bare answer fits into the smallest payload if the answer is slim. -/
theorem length_le_of_bare {query : Message} {reply : Bytes} (h : Bare answers query reply)
    (hslim : ∀ answer ∈ answers, ∀ data kept,
      acceptAnswer answer.request (.ok answer.response) = .ok data →
      Message.decode? data = some kept → kept.Slim) : reply.length ≤ smallestPayload := by
  obtain ⟨answer, hanswer, data, kept, message, haccepted, hkept, hquestions, hedns, hencode⟩ := h
  obtain ⟨hsingle, hoptions⟩ := hslim answer hanswer data kept haccepted hkept
  have hbare : message.Slim := by
    constructor
    · rcases hquestions with hsame | ⟨question, _, hown⟩
      · rw [hsame]
        exact hsingle
      · rw [hown]
        exact Nat.le_refl 1
    · rcases hedns with hsame | hnone
      · rw [hsame]
        exact hoptions
      · rw [hnone]
        exact nofun
  have hsmall := Message.length_shortened_le_smallestPayload hbare
  have hwhole := Message.encode?_of_length_le (Nat.le_trans hsmall (by decide))
  obtain rfl := Option.some.inj (hwhole.symm.trans hencode)
  exact hsmall

/-- A first request whose response is too large gets the shortened response. -/
theorem exists_moves_of_shortened {response reply : Bytes} {query message : Message}
    {key : String} (hquery : Message.decode? request = some query)
    (hkey : Cache.requestKey? query = some key)
    (hmessage : Message.decode? response = some message)
    (hid : message.header.id = query.header.id)
    (hlong : replyLimit options query < response.length)
    (hreply : message.shortened.encode? = some reply) :
    ∃ moves, (Traffic.run options .start moves).calls = [⟨request, .done (some reply)⟩] ∧
      ∀ answer ∈ (Traffic.run options .start moves).answers,
        answer.request = request ∧ answer.response = response := by
  obtain ⟨moves, _, hcalls, hanswers⟩ :=
    Traffic.exists_moves_handle_answers options .start request (answering response)
  have hforwarded := @reply_of_forwarded options request (answering response)
    Traffic.start.shared query key hquery hkey (fun _ _ hfound => nomatch hfound)
    Traffic.start.shared
  have haccepted : acceptAnswer request ((answering response).remote request) = .ok response :=
    acceptAnswer_of_decode? hquery hmessage hid
  obtain ⟨after, _, hfitted, _⟩ := @run_forward options request (answering response)
    Traffic.start.shared (some query) (some key) response haccepted
  have hshortened : Message.truncateFor (replyLimit options query) response = .ok reply :=
    (Message.truncateFor_eq_ok_iff hlong).mpr ⟨message, hmessage, hreply⟩
  rw [fit_of_truncateFor (Nat.not_le.mpr hlong) hshortened] at hfitted
  have hdone : ((handle options request).run (answering response) Traffic.start.shared).1 =
      some reply := hforwarded.trans hfitted
  rw [hdone] at hcalls
  refine ⟨moves, hcalls, fun answer hanswer => ?_⟩
  rcases hanswers answer hanswer with hold | ⟨hrequest, _, hresponse⟩
  · cases hold
  · exact ⟨hrequest, (Except.ok.inj hresponse).symm⟩

/-- **How large a reply is.**  With checked settings, the reply to a readable request fits
into what the client takes and what the settings allow, or it is a bare answer, which is
sent however large it is.  It fits in any case if no accepted answer has a second question
or more than 230 bytes of options. -/
theorem replies_fit (settings : Settings) (hchecked : settings.check = .ok ())
    (moves : List Move) :
    ∀ call ∈ (Traffic.run settings.resolverOptions .start moves).calls, ∀ query reply,
      Message.decode? call.request = some query → call.rest = .done (some reply) →
      (reply.length ≤ min query.payloadLimit settings.listening.largestPayload.toNat ∨
        Bare (Traffic.run settings.resolverOptions .start moves).answers query reply) ∧
      ((∀ answer ∈ (Traffic.run settings.resolverOptions .start moves).answers, ∀ data kept,
          acceptAnswer answer.request (.ok answer.response) = .ok data →
          Message.decode? data = some kept → kept.Slim) →
        reply.length ≤ min query.payloadLimit settings.listening.largestPayload.toNat) := by
  intro call hcall query reply hquery hdone
  have hlargest := Settings.largestPayload_of_check hchecked
  have hends := honours_run (fun request => assumes_fitting _ _ request)
    (fun request => handle_honours_fitting hlargest request) call hcall
  rw [hdone] at hends
  have hreply := hends query reply hquery rfl
  refine ⟨hreply, fun hslim => ?_⟩
  rcases hreply with hfits | hbare
  · exact hfits
  · exact Nat.le_trans (length_le_of_bare hbare hslim)
      (Nat.le_min.mpr ⟨query.smallestPayload_le_payloadLimit, hlargest⟩)

def udpSettings : Settings := { forwarding := { provider := "udp" } }

/-- A response with forty addresses. -/
def longResponse : Bytes :=
  [0, 1, 129, 128, 0, 1, 0, 40, 0, 0, 0, 0, 1, 97, 0, 0, 1, 0, 1] ++
    (List.replicate 40 [192, 12, 0, 1, 0, 1, 0, 0, 1, 44, 0, 4, 1, 1, 1, 1]).flatten

def longMessage : Message where
  header := .replying 1
  questions := [typeQuestion 1]
  answers := List.replicate 40 ⟨.letter, .a, ⟨1⟩, 300, some (.address [1, 1, 1, 1])⟩
  authorities := []
  additionals := []
  edns := none

set_option maxRecDepth 20000 in
theorem decode?_longResponse : Message.decode? longResponse = some longMessage := by cbv

/-- Without its addresses the response fits. -/
theorem replies_fit_addresses :
    ∃ moves reply, (Traffic.run udpSettings.resolverOptions .start moves).calls =
        [⟨typeRequest 1 1, .done (some reply)⟩] ∧
      (∀ answer ∈ (Traffic.run udpSettings.resolverOptions .start moves).answers,
        answer.response = longResponse) ∧
      512 < longResponse.length ∧ reply.length ≤ 512 := by
  have hquery : Message.decode? (typeRequest 1 1) = some (typeQuery 1 1) := by cbv
  have hlimit : replyLimit udpSettings.resolverOptions (typeQuery 1 1) = 512 := by decide
  have hlong : 512 < longResponse.length := by
    rw [longResponse, List.length_append, List.length_flatten, List.map_replicate,
      List.sum_replicate_nat]
    decide
  have hencode : longMessage.shortened.encode? =
      some [0, 1, 131, 128, 0, 1, 0, 0, 0, 0, 0, 0, 1, 97, 0, 0, 1, 0, 1] := by cbv
  obtain ⟨moves, hcalls, hanswers⟩ := exists_moves_of_shortened hquery
    (show Cache.requestKey? (typeQuery 1 1) = some _ from rfl) decode?_longResponse rfl
    (hlimit ▸ hlong) hencode
  refine ⟨moves, _, hcalls, fun answer hanswer => (hanswers answer hanswer).2, hlong, ?_⟩
  refine (replies_fit udpSettings (by cbv) moves _ (hcalls ▸ List.mem_singleton_self _) _ _ hquery
    rfl).2 fun answer hanswer data kept haccepted hkept => ?_
  obtain ⟨hrequest, hresponse⟩ := hanswers answer hanswer
  rw [hrequest, hresponse, acceptAnswer_of_decode? hquery decode?_longResponse rfl] at haccepted
  obtain rfl := Except.ok.inj haccepted
  obtain rfl := Option.some.inj (decode?_longResponse.symm.trans hkept)
  exact ⟨by decide, by simp [longMessage]⟩

/-- A response with a padding option of 500 bytes. -/
def paddedResponse : Bytes :=
  [0, 1, 129, 128, 0, 1, 0, 0, 0, 0, 0, 1, 1, 97, 0, 0, 1, 0, 1,
    0, 0, 41, 4, 208, 0, 0, 0, 0, 1, 248, 0, 12, 1, 244] ++ List.replicate 500 0

def paddedMessage : Message where
  header := .replying 1
  questions := [typeQuestion 1]
  answers := []
  authorities := []
  additionals := []
  edns := some ⟨1232, 0, 0, false, [(12, List.replicate 500 0)]⟩

/-- The same with the flag of a shortened response. -/
def shortenedPadded : Bytes :=
  [0, 1, 131, 128, 0, 1, 0, 0, 0, 0, 0, 1, 1, 97, 0, 0, 1, 0, 1,
    0, 0, 41, 4, 208, 0, 0, 0, 0, 1, 248, 0, 12, 1, 244] ++ List.replicate 500 0

set_option maxRecDepth 20000 in
theorem decode?_paddedResponse : Message.decode? paddedResponse = some paddedMessage := by cbv

set_option maxRecDepth 20000 in
theorem encode?_paddedMessage : paddedMessage.shortened.encode? = some shortenedPadded := by cbv

/-- The padding stays, and the client gets more than it takes. -/
theorem not_fits_padded :
    udpSettings.check = .ok () ∧ Message.decode? (typeRequest 1 1) = some (typeQuery 1 1) ∧
      ∃ moves reply, (Traffic.run udpSettings.resolverOptions .start moves).calls =
          [⟨typeRequest 1 1, .done (some reply)⟩] ∧
        min (typeQuery 1 1).payloadLimit udpSettings.listening.largestPayload.toNat <
          reply.length := by
  have hquery : Message.decode? (typeRequest 1 1) = some (typeQuery 1 1) := by cbv
  have hlimit : replyLimit udpSettings.resolverOptions (typeQuery 1 1) = 512 := by decide
  have hlong : 512 < paddedResponse.length := by
    rw [paddedResponse, List.length_append, List.length_replicate]
    decide
  obtain ⟨moves, hcalls, _⟩ := exists_moves_of_shortened hquery
    (show Cache.requestKey? (typeQuery 1 1) = some _ from rfl) decode?_paddedResponse rfl
    (hlimit ▸ hlong) encode?_paddedMessage
  refine ⟨by cbv, hquery, moves, _, hcalls, Nat.lt_of_le_of_lt (Nat.le_of_eq hlimit) ?_⟩
  rw [shortenedPadded, List.length_append, List.length_replicate]
  decide

end Resolver

end DnsForwarder
