import DnsForwarder.Proofs.Message.RoundTrip
import DnsForwarder.Proofs.Resolver.Paths

/-!
# Every reply carries the ID of its request

A reply may be the response of the remote server, a kept response, a shortened form
of either, or a refusal.  Each of them begins with the two bytes that its request
begins with, and has a whole header (`handle_endsIn`).

The responses are read and written again on some of these ways and taken as bytes on
others, so the ID is compared as two bytes throughout: `Bears id data`.  A message
that is read hands its first two bytes on as its ID, one that is written begins with
its ID, and shortening does not touch it.

`handle_endsIn` speaks about all outcomes of all steps.  Steps preserve it, so what
other requests do in between makes no difference (`reply_bears_id`).
-/

namespace DnsForwarder

/-- The bytes have a whole header, which begins with `id`. -/
def Datagram.Bears (id data : Bytes) : Prop :=
  Datagram.headerLength ≤ data.length ∧ data.take 2 = id

namespace Resolver

open Datagram Wire

variable {options : Options} {request : Bytes}

/-! ## Where the ID comes from -/

theorem bears_of_encode? {message : Message} {out : Bytes} (h : message.encode? = some out) :
    Bears (bytes16 message.header.id) out :=
  Message.take_of_encode? h

/-- A response that is accepted gets the ID of its request. -/
theorem bears_of_acceptAnswer {answer : Except Fault Bytes} {response : Bytes}
    (h : acceptAnswer request answer = .ok response) : Bears (request.take 2) response := by
  obtain ⟨hrequest, data, _, hlong, rfl⟩ := acceptAnswer_eq_ok_iff.mp h
  have hid : (request.take 2).length = 2 := List.length_take_of_le hrequest
  refine ⟨?_, ?_⟩
  · rw [headerLength] at hlong ⊢
    rw [List.length_append, List.length_drop, hid]
    omega
  · rw [List.take_append_of_le_length (Nat.le_of_eq hid.symm), List.take_take, Nat.min_self]

/-- Shortening keeps the ID. -/
theorem bears_of_truncateFor {id response out : Bytes} {limit : Nat}
    (hresponse : Bears id response) (h : Message.truncateFor limit response = .ok out) :
    Bears id out := by
  unfold Message.truncateFor at h
  split at h
  · cases h
    exact hresponse
  · split at h
    · cases h
    · rename_i message hmessage
      split at h
      · cases h
      · rename_i bytes hencode
        cases h
        have hbears := bears_of_encode? hencode
        change Bears (bytes16 message.header.id) out at hbears
        rwa [← Message.take_of_decode? hmessage, hresponse.2] at hbears

/-- A kept response gets the ID of the request that it answers. -/
theorem bears_of_age {kept out : Bytes} {elapsed : Duration} {query : Message}
    (hquery : Message.decode? request = some query)
    (h : Message.age kept elapsed query = .ok out) : Bears (request.take 2) out := by
  unfold Message.age at h
  split at h
  · cases h
  · split at h
    · cases h
    · rename_i bytes hencode
      cases h
      have hbears := bears_of_encode? hencode
      rwa [Message.take_of_decode? hquery]

theorem bears_of_refusal {out : Bytes} (h : refusal request = .ok out) :
    Bears (request.take 2) out := by
  unfold refusal at h
  split at h
  · split at h
    · cases h
    · cases h
      exact ⟨by simp [headerLength], rfl⟩
  · cases h

/-! ## What handling a request may end in -/

/-- A result without a reply, or with one that carries the ID of the request. -/
def Identified (request : Bytes) (result : Option Bytes) : Prop :=
  ∀ reply ∈ result, Bears (request.take 2) reply

theorem identified_some {reply : Bytes} (h : Bears (request.take 2) reply) :
    Identified request (some reply) := by
  rintro other ⟨⟩
  exact h

theorem identified_none : Identified request none :=
  fun _ hreply => nomatch hreply

theorem refuse_endsIn (options : Options) (request : Bytes) :
    (refuse options request).EndsIn (Identified request) := by
  rcases refuse_cases options request with h | ⟨reply, hreply, h⟩
  · rw [h]
    exact identified_none
  · rw [h]
    exact identified_some (bears_of_refusal hreply)

theorem fit_endsIn (options : Options) (query : Option Message) {response : Bytes}
    (hresponse : Bears (request.take 2) response) :
    (fit options request query response).EndsIn (Identified request) := by
  rcases fit_cases options request query response with
    ⟨_, h⟩ | ⟨_, _, _, ⟨shortened, hshortened, h⟩ | ⟨_, h⟩⟩
  · rw [h]
    exact identified_some hresponse
  · rw [h]
    exact identified_some (bears_of_truncateFor hresponse hshortened)
  · rw [h]
    exact refuse_endsIn options request

theorem forward_endsIn (options : Options) (request : Bytes) (query : Option Message)
    (key : Option String) : (forward options request query key).EndsIn (Identified request) := by
  intro answer
  dsimp only
  split
  · exact refuse_endsIn options request
  · rename_i response haccepted
    have hfit := fit_endsIn options query (bears_of_acceptAnswer haccepted)
    rcases keepResponse_cases options key response (fit options request query response) with
      hnot | ⟨name, lifetime, _, _, hkept⟩
    · rw [hnot]
      exact hfit
    · rw [hkept]
      exact hfit

theorem handle_endsIn (options : Options) (request : Bytes) :
    (handle options request).EndsIn (Identified request) := by
  rcases handle_cases options request with hpath | ⟨query, _, hpath⟩ |
    ⟨query, key, hquery, _, hpath⟩
  · rw [hpath]
    exact identified_none
  · rw [hpath]
    exact forward_endsIn options request query none
  · rw [hpath]
    have hmiss := forward_endsIn options request (some query) (some key)
    intro found
    unfold afterLookup
    split
    · split
      · rename_i response hage
        exact fit_endsIn options (some query) (bears_of_age hquery hage)
      · exact hmiss
    · exact hmiss

/-! ## Every run -/

/-- **Every reply carries the ID of its request.**  Whatever the cache holds at the
beginning, whatever the remote server answers and however the steps of the requests
follow each other: when a call has ended in a reply, the reply has a whole header
and begins with the first two bytes of the request. -/
theorem reply_bears_id (options : Options) (shared : Shared) (moves : List Move) :
    ∀ call ∈ (Traffic.run options { shared := shared } moves).calls,
      ∀ reply, call.rest = .done (some reply) →
        12 ≤ reply.length ∧ reply.take 2 = call.request.take 2 := by
  intro call hcall reply hdone
  have hends := Traffic.forall_calls_run rfl (handle_endsIn options)
    (fun _ _ around shared h => h.step around shared) moves call hcall
  rw [hdone] at hends
  exact hends reply rfl

/-- A request with an opcode that cannot be read. -/
def strangeRequest : Bytes := [7, 9, 120, 0, 0, 0, 0, 0, 0, 0, 0, 0]

def strangeOptions : Options := { largestPayload := 4096, lifetimes := ⟨0, 0, 0⟩ }

/-- It is answered with a refusal when the remote server fails. -/
theorem reply_bears_id_refusal :
    ∃ moves reply, (Traffic.run strangeOptions .start moves).calls =
        [⟨strangeRequest, .done (some reply)⟩] ∧ 12 ≤ reply.length ∧ reply.take 2 = [7, 9] := by
  have hquery : Message.decode? strangeRequest = none := by cbv
  obtain ⟨moves, _, hcalls⟩ := Traffic.exists_moves_handle strangeOptions .start strangeRequest
    { now := 0, remote := fun _ => .error .undecodable }
  rw [handle_of_unreadable (by decide) hquery] at hcalls
  have hcalls : (Traffic.run strangeOptions .start moves).calls =
      [⟨strangeRequest, .done (some [7, 9, 248, 130, 0, 0, 0, 0, 0, 0, 0, 0])⟩] := hcalls
  have hmem := List.mem_singleton_self
    (Call.mk strangeRequest (.done (some [7, 9, 248, 130, 0, 0, 0, 0, 0, 0, 0, 0])))
  rw [← hcalls] at hmem
  exact ⟨moves, _, hcalls, reply_bears_id strangeOptions Traffic.start.shared moves _ hmem _ rfl⟩

end Resolver

end DnsForwarder
