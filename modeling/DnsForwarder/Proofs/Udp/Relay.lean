import DnsForwarder.Proofs.Udp.Correlation

/-!
# What the client changes

A query and the response to it only have their first two bytes changed on the way.  What is
sent for a call is its query with the ID that it was registered under before
(`sent_of_run`), and a response that comes for a call while it listens is what the call
returns, with the ID of its query, unless it gives up by itself (`result?_of_arrive`).
-/

namespace DnsForwarder.Udp.Client

open Occurrence

variable {client next last : Client} {place : Nat} {call : Call} {datagram response : Bytes}

/-! ## On the way to the server -/

/-- Only a call that sends adds a sent datagram to the log. -/
theorem send_of_occurrence {step : Step}
    (h : client.occurrence next step = some (sent place datagram)) :
    step = .transmit place none ∧ ∃ call, client.calls[place]? = some call ∧
      datagram = call.datagram := by
  cases step with
  | transmit sender refused =>
      cases refused with
      | some cause => cases h
      | none =>
          obtain ⟨call, hcall, hsent⟩ := Option.map_eq_some_iff.mp h
          cases hsent
          exact ⟨rfl, call, hcall, rfl⟩
  | register | take =>
      rw [occurrence] at h
      split at h <;> cases h
  | arrive | handOver =>
      rw [occurrence] at h
      obtain ⟨_, _, hother⟩ := Option.map_eq_some_iff.mp h
      cases hother
  | expire | leave => cases h

/-- What was sent for a call is its query with the ID that it was registered under. -/
def Asked (log : List Occurrence) (client : Client) : Prop :=
  ∀ place datagram, sent place datagram ∈ log → ∃ call, client.calls[place]? = some call ∧
    datagram = Wire.bytes16 call.wireId ++ call.query.drop 2 ∧
    [registered place call.query call.wireId, sent place datagram].Sublist log

theorem Asked.step {log : List Occurrence} {step : Step} (h : Asked log client)
    (hrecorded : Recorded log client) (hnext : client.step step = some next) :
    Asked (log ++ (client.occurrence next step).toList) next := by
  intro place datagram hsent
  have hstep := stepsTo_of_step hnext
  rcases List.mem_append.mp hsent with hold | hnew
  · -- the call keeps its query and its ID
    obtain ⟨call, hcall, hdatagram, hlog⟩ := h place datagram hold
    obtain ⟨now, hnow, hfollows⟩ := hstep.follows hcall
    rw [← hfollows.query, ← hfollows.wireId] at hdatagram hlog
    exact ⟨now, hnow, hdatagram, hlog.trans (List.sublist_append_left _ _)⟩
  · obtain ⟨rfl, call, hcall, rfl⟩ := send_of_occurrence (Option.mem_toList.mp hnew)
    obtain ⟨now, hnow, hfollows⟩ := hstep.follows hcall
    cases hstep with
    | send hsender hstage =>
        -- a call that is about to send was registered before, and still listens
        obtain rfl := Option.some.inj (hsender.symm.trans hcall)
        have htold := hrecorded.calls place _ hcall
        have hread := htold.id_query (by simp [hstage])
        have hlisted := htold.listed (Call.listens_iff.mpr (.inl hstage))
        have hdatagram := datagram_eq_of_withId (Datagram.withId_of_id hread _)
        refine ⟨now, hnow, ?_, ?_⟩
        · rw [hfollows.query, hfollows.wireId, hdatagram]
        · rw [hfollows.query, hfollows.wireId, occurrence_send hcall]
          exact sublist_snoc hlisted _
    | turn _ hturn => cases hturn

theorem sent_of_run (server : SocketAddress) (timeoutMilliseconds : Nat) {steps : List Step}
    (hrun : (Client.idle server timeoutMilliseconds).run steps = some client) :
    Asked ((Client.idle server timeoutMilliseconds).log steps) client := by
  have hstart := And.intro (Orderly.idle server timeoutMilliseconds)
    (And.intro (Recorded.idle server timeoutMilliseconds)
      (fun _ _ hsent => nomatch hsent : Asked [] (Client.idle server timeoutMilliseconds)))
  have hlast := log_induction
    (motive := fun log client => client.Orderly ∧ Recorded log client ∧ Asked log client)
    ?_ hstart hrun
  · exact hlast.2.2
  · intro log client step next hnext hstep ⟨horderly, hrecorded, hasked⟩
    exact ⟨horderly.step hstep, hrecorded.step horderly hnext, hasked.step hrecorded hnext⟩

/-! ## On the way back -/

theorem result?_eq (hcall : client.calls[place]? = some call) :
    client.result? place = match call.stage with
      | .returned response => some (.ok response)
      | .failed fault => some (.error fault)
      | _ => none := by
  rw [result?, hcall]
  cases hstage : call.stage <;> simp [hstage]

/-- A response that a call is registered for is routed to it. -/
theorem arrive_eq (horderly : client.Orderly) (hlisted : (call.wireId, place) ∈ client.pending)
    (hfree : client.held = none) (hresponse : Datagram.isResponse datagram = true)
    (hid : Datagram.id datagram = .ok call.wireId) :
    client.step (.arrive datagram) =
      some { client.removeId call.wireId with held := some (place, datagram) } := by
  simp [Client.step, Client.arrive, hfree, hresponse, hid, horderly.lookup_eq_some hlisted]

/-- A response that comes for a call while it listens is what the call returns, unless it gives
up by itself. -/
theorem result?_of_arrive (horderly : client.Orderly) (hcall : client.calls[place]? = some call)
    (hlistens : call.listens = true) (hlisted : (call.wireId, place) ∈ client.pending)
    (hresponse : Datagram.isResponse datagram = true)
    (hid : Datagram.id datagram = .ok call.wireId) {later : List Step}
    (hrun : client.run (.arrive datagram :: later) = some last) {answer : Except Fault Bytes}
    (hresult : last.result? place = some answer) :
    answer = .ok (Wire.bytes16 call.ownId ++ datagram.drop 2) ∨
      ∃ fault, answer = .error fault ∧ GivesUp fault := by
  obtain ⟨next, hnext, hlater⟩ := Option.bind_eq_some_iff.mp hrun
  have hrouted := arrive_eq horderly hlisted (held_eq_none_of_arrive hnext) hresponse hid
  obtain rfl := Option.some.inj (hrouted.symm.trans hnext)
  have hreached : Reached { client.removeId call.wireId with held := some (place, datagram) }
      place call.ownId datagram := ⟨call, hcall, rfl, .carried hlistens rfl⟩
  obtain ⟨_, now, hnow, hown, hdelivery⟩ :=
    hreached.run (horderly.step (stepsTo_of_step hnext)) hlater
  rw [result?_eq hnow] at hresult
  have hopen : now.listens = true → False := by
    intro hlistens
    rcases Call.listens_iff.mp hlistens with hstage | hstage <;> rw [hstage] at hresult <;>
      cases hresult
  cases hdelivery with
  | carried hlistens => exact (hopen hlistens).elim
  | ready hlistens => exact (hopen hlistens).elim
  | returned hstage hbytes =>
      rw [hstage] at hresult
      obtain rfl := Option.some.inj hresult
      rw [hown, Datagram.withId_of_id hid] at hbytes
      exact .inl (congrArg Except.ok (Except.ok.inj hbytes).symm)
  | gaveUp hstage hfault =>
      rcases hstage with hstage | hstage <;> rw [hstage] at hresult
      · cases hresult
      · obtain rfl := Option.some.inj hresult
        exact .inr ⟨_, rfl, hfault⟩

/-- A waiting call can return a response at once when it arrives. -/
theorem take_of_arrive (horderly : client.Orderly) (hcall : client.calls[place]? = some call)
    (hwaiting : call.stage = .waiting) (hlisted : (call.wireId, place) ∈ client.pending)
    (hfree : client.held = none) (hresponse : Datagram.isResponse datagram = true)
    (hid : Datagram.id datagram = .ok call.wireId) :
    ∃ last, client.run [.arrive datagram, .handOver, .take place] = some last ∧
      last.result? place = some (.ok (Wire.bytes16 call.ownId ++ datagram.drop 2)) := by
  have hlistens : call.listens = true := Call.listens_iff.mpr (.inr hwaiting)
  have hrouted := arrive_eq horderly hlisted hfree hresponse hid
  let handed : Client := { client.removeId call.wireId with held := none }.changeCall place
    (Call.receive datagram)
  have hhanded : { client.removeId call.wireId with held := some (place, datagram) }.step
      .handOver = some handed := rfl
  have hfilled : handed.calls[place]? = some { call with channel := .filled datagram } := by
    have hreceived : handed.calls[place]? = some (call.receive datagram) :=
      getElem?_changeCall_self _ hcall
    rw [hreceived, Call.receive, if_pos hlistens]
  have htaken : handed.step (.take place) = some
      (handed.setStage place (.returned (Wire.bytes16 call.ownId ++ datagram.drop 2))) := by
    simp [Client.step, Client.take, hfilled, hwaiting, Datagram.withId_of_id hid]
  refine ⟨_, ?_, result?_setStage hfilled (.returned _)⟩
  rw [Client.run, hrouted, Option.bind_some, Client.run, hhanded, Option.bind_some, Client.run,
    htaken, Option.bind_some, Client.run]

end DnsForwarder.Udp.Client
