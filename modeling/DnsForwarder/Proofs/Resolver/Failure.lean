import DnsForwarder.Proofs.Resolver.Mirroring
import DnsForwarder.Proofs.Resolver.Transparency

/-!
# Requests that the remote server fails

A request that is not answered from the cache is forwarded.  If nothing acceptable comes back,
whatever the fault is, the request leaves nothing behind but its counts (`Unserved`), and its
sender gets nothing or a bare "server failure", made from the first three bytes of the request
(`SaysFailure`), so that a request that cannot be read gets it too.

## Strategy

All ways to the remote server end alike (`run_forward_of_fault`), and on only one of them the
cache was touched before: an entry was found and taken out because it could not be aged.  No
request gets there, since every entry holds a response, and a response can be aged for any request
with one question (`Sourced.exists_age`).
-/

namespace DnsForwarder

/-! ## The reply -/

namespace Datagram

/-- The two bytes of flags say "server failure" and nothing else that is not asked for. -/
structure FailureFlags (high low : UInt8) : Prop where
  response : high.toNat.testBit 7 = true
  authoritative : high.toNat.testBit 2 = false
  truncated : high.toNat.testBit 1 = false
  recursionAvailable : low.toNat.testBit 7 = true
  reserved : low.toNat.testBit 6 = false
  authenticData : low.toNat.testBit 5 = false
  checkingDisabled : low.toNat.testBit 4 = false
  code : low.toNat % 16 = 2

/-- The reply is a header alone, with the ID of the request, its opcode and wish for recursion,
and without any records. -/
structure SaysFailure (request reply : Bytes) : Prop extends Mirrors request reply where
  length : reply.length = 12
  layout : ∃ high low, FailureFlags high low ∧
    reply = request.take 2 ++ high :: low :: List.replicate 8 0

theorem failureFlags_refusal (flags : UInt8) : FailureFlags (refusalFlags flags) 130 := by
  have hflags : (refusalFlags flags).toNat =
      128 + flags.toNat / 8 % 16 * 8 + flags.toNat % 2 := by
    rw [refusalFlags, UInt8.toNat_ofNat']
    omega
  have hbit : ∀ place, (refusalFlags flags).toNat.testBit place =
      decide ((128 + flags.toNat / 8 % 16 * 8 + flags.toNat % 2) / 2 ^ place % 2 = 1) := by
    intro place
    rw [hflags, Nat.testBit_eq_decide_div_mod_eq]
  constructor
  case response =>
    rw [hbit, decide_eq_true_eq]
    omega
  case authoritative =>
    rw [hbit, decide_eq_false_iff_not]
    omega
  case truncated =>
    rw [hbit, decide_eq_false_iff_not]
    omega
  all_goals decide

theorem saysFailure_refusal {request reply : Bytes} (h : refusal request = .ok reply) :
    SaysFailure request reply := by
  obtain ⟨flags, _, _, hreply⟩ := Resolver.refusal_eq h
  exact ⟨mirrors_refusal h, length_refusal h, _, 130, failureFlags_refusal flags, hreply⟩

end Datagram

namespace Resolver

open Datagram (SaysFailure)

variable {options : Options} {around : Surroundings} {shared : Shared} {request : Bytes}
  {query : Message} {key : String}

/-- The sender of a request that cannot be served gets this reply. -/
inductive FailureReply (options : Options) (request : Bytes) : Option Bytes → Prop
  | silent (hoff : options.refuseOnError = false) : FailureReply options request none
  | refused {reply : Bytes} (hon : options.refuseOnError = true)
      (hreply : SaysFailure request reply) : FailureReply options request (some reply)

theorem FailureReply.exists_reply {result : Option Bytes}
    (h : FailureReply options request result) (hon : options.refuseOnError = true) :
    ∃ reply, result = some reply ∧ SaysFailure request reply := by
  cases h with
  | silent hoff => cases hoff.symm.trans hon
  | refused _ hreply => exact ⟨_, rfl, hreply⟩

/-! ## The end of all ways -/

theorem run_refuse (hlong : Datagram.headerLength ≤ request.length) :
    ∃ reply, FailureReply options request reply ∧
      ((refuse options request).run around shared).1 = reply ∧
      ((refuse options request).run around shared).2.1 =
        if reply.isSome then shared.count .refusal else shared := by
  unfold refuse
  split
  · rename_i hon
    obtain ⟨reply, hreply⟩ := exists_refusal hlong
    rw [hreply]
    exact ⟨some reply, .refused hon (Datagram.saysFailure_refusal hreply), rfl, rfl⟩
  · rename_i hoff
    exact ⟨none, .silent (Bool.eq_false_iff.mpr hoff), rfl, rfl⟩

/-- A fault is counted, and the request is refused. -/
theorem run_forward_of_fault {asked : Option Message} {name : Option String}
    (hlong : Datagram.headerLength ≤ request.length)
    (hfault : ∀ response, acceptAnswer request (around.remote request) ≠ .ok response) :
    ∃ reply, FailureReply options request reply ∧
      ((forward options request asked name).run around shared).1 = reply ∧
      ((forward options request asked name).run around shared).2.1 =
        if reply.isSome then (shared.count .remoteError).count .refusal
        else shared.count .remoteError := by
  simp only [forward, Action.run]
  split
  · exact run_refuse hlong
  · rename_i response haccepted
    exact absurd haccepted (hfault response)

/-! ## What is left of the request -/

/-- The counters after a request that could not be forwarded. -/
def failureMetrics (before : Metrics) (keyed refused : Bool) : Metrics :=
  { before with
    requestsReceived := before.requestsReceived + 1
    cacheMisses := before.cacheMisses + if keyed then 1 else 0
    remoteErrors := before.remoteErrors + 1
    refusalsSent := before.refusalsSent + if refused then 1 else 0 }

theorem failureMetrics_eq (before : Metrics) (keyed refused : Bool) :
    failureMetrics before keyed refused =
      let asked := if keyed then (before.count .received).count .cacheMiss
        else before.count .received
      if refused then (asked.count .remoteError).count .refusal else asked.count .remoteError := by
  cases keyed <;> cases refused <;> simp [failureMetrics, Metrics.count]

/-- A request came to this end, and nothing else became of it. -/
structure Unserved (options : Options) (before : Shared) (request : Bytes)
    (reply : Option Bytes) (after : Shared) : Prop where
  replied : FailureReply options request reply
  /-- So every lookup answers as before, at any time. -/
  cache : after.cache = before.cache
  failing : after.failing = before.failing
  metrics : after.metrics = failureMetrics before.metrics
    (keyOf request).isSome reply.isSome

/-- What was done before the request was forwarded, followed by a fault. -/
theorem unserved_of_forward {asked : Option Message} {name : Option String} {before : Shared}
    (hlong : Datagram.headerLength ≤ request.length)
    (hfault : ∀ response, acceptAnswer request (around.remote request) ≠ .ok response)
    (hcache : before.cache = shared.cache)
    (hfailing : before.failing = shared.failing)
    (hmetrics : before.metrics =
      if (keyOf request).isSome then
        (shared.metrics.count .received).count .cacheMiss
      else shared.metrics.count .received) :
    Unserved options shared request
      ((forward options request asked name).run around before).1
      ((forward options request asked name).run around before).2.1 := by
  obtain ⟨reply, hreply, hresult, hafter⟩ := @run_forward_of_fault options around before request
    asked name hlong hfault
  rw [hresult, hafter]
  refine ⟨hreply, ?_, ?_, ?_⟩
  · split <;> exact hcache
  · split <;> exact hfailing
  · rw [failureMetrics_eq, ← hmetrics]
    cases reply <;> rfl

/-- Nothing is kept at the beginning, so all that is kept later stems from an answer. -/
theorem sourced_of_empty {start : Shared} (hstart : ∀ key, start.cache.stored? key = none) :
    Sourced options { shared := start } where
  entries := by
    intro key entry h
    cases (hstart key).symm.trans h
  calls := by
    intro call h
    cases h
  answers := by
    intro answer h
    cases h

/-- **A fault of the remote server leaves no trace but the counters.**  After any moves of a
resolver that began with an empty or disabled cache, let a request that has a header not be
answered from the cache, and let the remote server answer it with a fault or with less than a
header.  Then the cache is as before; the reply is a bare "server failure", or there is none if
refusing is turned off; and of the counters only those of requests, of faults, of misses if the
request has a key, and of refusals if it was refused go up, each by one. -/
theorem fault_traceless (options : Options) (start : Shared)
    (hstart : ∀ key, start.cache.stored? key = none) (moves : List Move) (around : Surroundings)
    (request : Bytes) (hlong : 12 ≤ request.length)
    (hnot : ∀ key, ¬ AnsweredFromCache options around
      (Traffic.run options { shared := start } moves).shared request key)
    (hfault : ∀ response, around.remote request = .ok response → response.length < 12) :
    Unserved options (Traffic.run options { shared := start } moves).shared request
      ((handle options request).run around
        (Traffic.run options { shared := start } moves).shared).1
      ((handle options request).run around
        (Traffic.run options { shared := start } moves).shared).2.1 := by
  have hsourced : Sourced options (Traffic.run options { shared := start } moves) :=
    Traffic.run_induction (sourced_of_empty hstart) (fun _ move h => move_sourced h move) moves
  generalize Traffic.run options { shared := start } moves = traffic at hnot hsourced ⊢
  have hrejected : ∀ response, acceptAnswer request (around.remote request) ≠ .ok response := by
    intro response haccepted
    obtain ⟨_, data, hdata, hheader, _⟩ := acceptAnswer_eq_ok_iff.mp haccepted
    exact absurd (hfault data hdata) (Nat.not_lt.mpr hheader)
  cases hkeyed : keyOf request with
  | none =>
      rw [handle_of_keyless hlong hkeyed]
      exact unserved_of_forward hlong hrejected rfl rfl (by rw [hkeyed]; rfl)
  | some key =>
      obtain ⟨query, hquery, hkey⟩ := Option.bind_eq_some_iff.mp hkeyed
      obtain ⟨hreply, hafter⟩ :=
        @run_of_keyed options request around traffic.shared _ _ hquery hkey
      rw [hreply, hafter]
      unfold afterLookup
      split
      · rename_i hit hlookup
        split
        · -- then it would have been answered from the cache
          rename_i response hage
          exact absurd (answeredFromCache_of_hit hquery hkey hlookup hage) (hnot key)
        · rename_i fault hage
          obtain ⟨response, hresponse⟩ := hsourced.exists_age hkey hlookup
          cases hage.symm.trans hresponse
      · exact unserved_of_forward hlong hrejected rfl rfl (by rw [hkeyed]; rfl)

/-- A second later the server posts a body that is no response. -/
def bodyTooShort : Surroundings where
  now := seconds 1
  remote := Doh.resolve fun _ => .answered 200 [1, 2, 3]

/-- A request that cannot be read is refused, and the address that was kept before is still
found. -/
theorem fault_traceless_strange :
    12 ≤ strangeRequest.length ∧ Message.decode? strangeRequest = none ∧
      ∃ moves reply, (Traffic.run wideOptions .start moves).requests = [typeRequest 1 1] ∧
        ((handle wideOptions strangeRequest).run bodyTooShort
          (Traffic.run wideOptions .start moves).shared).1 = some reply ∧
        SaysFailure strangeRequest reply ∧
        ((handle wideOptions strangeRequest).run bodyTooShort
          (Traffic.run wideOptions .start moves).shared).2.1.cache.get (seconds 2) addressKey =
            some ⟨typeResponse 1 1, 0, seconds 300⟩ := by
  have hunreadable : Message.decode? strangeRequest = none := by cbv
  have hlong : 12 ≤ strangeRequest.length := by decide
  obtain ⟨moves, hrequests, hcache, _⟩ := exists_moves_address decode?_addressRequest rfl
    decode?_addressResponse rfl (by cbv)
  have hnot : ∀ key, ¬ AnsweredFromCache wideOptions bodyTooShort
      (Traffic.run wideOptions .start moves).shared strangeRequest key := by
    intro key hanswered
    obtain ⟨query, _, hquery, _⟩ := exists_hit_of_answeredFromCache hanswered
    cases hunreadable.symm.trans hquery
  have hfault : ∀ response, bodyTooShort.remote strangeRequest = .ok response →
      response.length < 12 := by
    intro response h
    cases h
  obtain ⟨hreplied, hkept, _⟩ := fault_traceless wideOptions Traffic.start.shared (fun _ => rfl)
    moves bodyTooShort strangeRequest hlong hnot hfault
  obtain ⟨reply, hreply, hfailure⟩ := hreplied.exists_reply rfl
  refine ⟨hlong, hunreadable, moves, reply, hrequests, hreply, hfailure, ?_⟩
  have hlives : Entry.expired ⟨typeResponse 1 1, 0, seconds 300⟩ (seconds 2) = false := by
    decide
  have hsame : ((handle wideOptions strangeRequest).run bodyTooShort
      (Traffic.run wideOptions .start moves).shared).2.1.cache =
        (Traffic.run wideOptions .start moves).shared.cache := hkept
  rw [hsame, hcache]
  simp [Cache.get, Cache.stored?, Option.filter, hlives]

end Resolver

end DnsForwarder
