import DnsForwarder.Proofs.Udp.Log

/-!
# Which datagram becomes which response

The network may send any datagram at any time.  What a call returns is still a datagram that
came for it: it was routed to the call after that was registered, it is a response with the ID
that the query was sent with, and it was handed to no other call.  The query and the datagram
only have their first two bytes changed on the way.

`Told` is what the log tells of one call, by its stage and its channel, as lists of occurrences
that are in the log in this order.  A step that adds to the log either leaves a call alone
(`Told.mono`) or adds the last occurrence of such a list.
-/

namespace DnsForwarder

namespace Datagram

theorem length_of_isResponse {data : Bytes} (h : isResponse data = true) : 3 ≤ data.length := by
  match data with
  | [] => cases h
  | [_] => cases h
  | [_, _] => cases h
  | _ :: _ :: _ :: rest => simp

end Datagram

namespace Udp

open Occurrence

theorem sublist_snoc {past log : List Occurrence} (h : past.Sublist log)
    (occurrence : Occurrence) : (past ++ [occurrence]).Sublist (log ++ [occurrence]) :=
  h.append (List.Sublist.refl _)

/-! ## What the log tells of a call -/

structure Told (log : List Occurrence) (place : Nat) (call : Call) : Prop where
  read : (∃ fault, call.stage = .failed fault) ∨ Datagram.id call.query = .ok call.ownId
  listed : call.listens = true → [registered place call.query call.wireId].Sublist log
  asked : call.stage = .waiting →
    [registered place call.query call.wireId, sent place call.datagram].Sublist log
  filled : ∀ datagram, call.channel = .filled datagram →
    [registered place call.query call.wireId, routed place datagram,
      handed place datagram].Sublist log
  answered : ∀ response, call.stage = .returned response →
    [registered place call.query call.wireId, sent place call.datagram,
      returned place response].Sublist log ∧
    ∀ datagram, call.channel = .filled datagram →
      [registered place call.query call.wireId, routed place datagram, handed place datagram,
        returned place response].Sublist log

variable {log : List Occurrence} {place : Nat} {call : Call} {datagram : Bytes}

theorem Told.mono (h : Told log place call) (later : List Occurrence) :
    Told (log ++ later) place call := by
  have hgrow : ∀ {past : List Occurrence}, past.Sublist log → past.Sublist (log ++ later) :=
    fun hpast => hpast.trans (List.sublist_append_left log later)
  refine ⟨h.read, fun hlistens => hgrow (h.listed hlistens),
    fun hwaiting => hgrow (h.asked hwaiting),
    fun datagram hfilled => hgrow (h.filled datagram hfilled), ?_⟩
  intro response hreturned
  obtain ⟨hasked, hanswered⟩ := h.answered response hreturned
  exact ⟨hgrow hasked, fun datagram hfilled => hgrow (hanswered datagram hfilled)⟩

theorem Told.id_query (h : Told log place call) (hopen : ∀ fault, call.stage ≠ .failed fault) :
    Datagram.id call.query = .ok call.ownId := by
  rcases h.read with ⟨fault, hfailed⟩ | hid
  · exact absurd hfailed (hopen fault)
  · exact hid

/-- Of a call that fails, the log tells what it got. -/
theorem Told.fail (h : Told log place call) (fault : Fault) :
    Told log place { call with stage := .failed fault } :=
  ⟨.inl ⟨fault, rfl⟩, nofun, nofun, h.filled, nofun⟩

theorem told_of_registered (log : List Occurrence) (place : Nat) (call : Call)
    (hid : Datagram.id call.query = .ok call.ownId) (hstage : call.stage = .registered)
    (hchannel : call.channel = .awaiting) :
    Told (log ++ [registered place call.query call.wireId]) place call := by
  refine ⟨.inr hid, fun _ => List.sublist_append_right _ _, ?_, ?_, ?_⟩
  · rw [hstage]
    nofun
  · rw [hchannel]
    nofun
  · rw [hstage]
    nofun

theorem told_of_failed {fault : Fault} (hstage : call.stage = .failed fault)
    (hchannel : call.channel = .awaiting) : Told log place call := by
  refine ⟨.inl ⟨fault, hstage⟩, ?_, ?_, ?_, ?_⟩
  · intro hlistens
    exact absurd hlistens (Call.deaf_of_stage hstage nofun nofun)
  · rw [hstage]
    nofun
  · rw [hchannel]
    nofun
  · rw [hstage]
    nofun

theorem Told.send (h : Told log place call) (hstage : call.stage = .registered) :
    Told (log ++ [sent place call.datagram]) place { call with stage := .waiting } := by
  have hlisted := h.listed (Call.listens_iff.mpr (.inl hstage))
  have hlater := h.mono [sent place call.datagram]
  exact ⟨.inr (h.id_query (by simp [hstage])),
    fun _ => hlisted.trans (List.sublist_append_left _ _),
    fun _ => sublist_snoc hlisted (sent place call.datagram), hlater.filled, nofun⟩

theorem Told.receive (h : Told log place call)
    (hrouted : call.listens = true →
      [registered place call.query call.wireId, routed place datagram].Sublist log) :
    Told (log ++ [handed place datagram]) place (call.receive datagram) := by
  have hlater := h.mono [handed place datagram]
  unfold Call.receive
  split
  · rename_i hlistens
    refine ⟨hlater.read, hlater.listed, hlater.asked, ?_, ?_⟩
    · intro other hfilled
      obtain rfl := Channel.filled.inj hfilled
      exact sublist_snoc (hrouted hlistens) (handed place datagram)
    · intro response hreturned
      exact absurd hlistens (Call.deaf_of_stage hreturned nofun nofun)
  · exact hlater

theorem Told.abandon (h : Told log place call) : Told log place call.abandon := by
  rcases Call.abandon_cases call with ⟨hawaiting, habandon⟩ | ⟨_, habandon⟩
  · rw [habandon]
    refine ⟨h.read, h.listed, h.asked, nofun, ?_⟩
    intro response hreturned
    exact ⟨(h.answered response hreturned).1, nofun⟩
  · rwa [habandon]

theorem Told.turn {client : Client} {step : Step} {stage : Stage} (h : Told log place call)
    (hcall : client.calls[place]? = some call) (hturn : call.Turns place step stage) :
    Told (log ++ (client.occurrence (client.setStage place stage) step).toList) place
      { call with stage } := by
  rw [Client.occurrence_turn hcall hturn]
  have hread := h.id_query hturn.not_failed
  cases hturn with
  | @take hwaiting datagram response hchannel =>
      have hlater := h.mono [returned place response]
      refine ⟨.inr hread, nofun, nofun, hlater.filled, ?_⟩
      intro other hreturned
      obtain rfl := Stage.returned.inj hreturned
      refine ⟨sublist_snoc (h.asked hwaiting) (returned place response), ?_⟩
      intro held hfilled
      exact sublist_snoc (h.filled held hfilled) (returned place response)
  | unsent | fumble | stop | expire =>
      have hlater := h.mono []
      exact ⟨.inr hread, nofun, nofun, hlater.filled, nofun⟩

namespace Client

variable {client next : Client}

/-! ## What the log tells of all calls -/

structure Recorded (log : List Occurrence) (client : Client) : Prop where
  calls : ∀ (place : Nat) (call : Call), client.calls[place]? = some call → Told log place call
  carried : ∀ (place : Nat) (datagram : Bytes) (call : Call),
    client.held = some (place, datagram) → client.calls[place]? = some call →
    call.listens = true →
    [registered place call.query call.wireId, routed place datagram].Sublist log

theorem Recorded.idle (server : SocketAddress) (timeoutMilliseconds : Nat) :
    Recorded [] (Client.idle server timeoutMilliseconds) := by
  constructor <;> simp [Client.idle]

/-- No call begins to listen again. -/
theorem StepsTo.listened {step : Step} {now : Call} (hstep : client.StepsTo step next)
    (hcall : client.calls[place]? = some call) (hnow : next.calls[place]? = some now)
    (hlistens : now.listens = true) : call.listens = true := by
  have hsame : client.calls[place]? = some now → call.listens = true := by
    intro hold
    obtain rfl := Option.some.inj (hold.symm.trans hcall)
    exact hlistens
  cases hstep with
  | refuse | register =>
      rcases getElem?_addCall_eq_some.mp hnow with hold | ⟨rfl, _⟩
      · exact hsame hold
      · simp at hcall
  | send hacting hstage =>
      rcases changeCall_cases hacting hnow with ⟨rfl, rfl⟩ | ⟨_, hold⟩
      · obtain rfl := Option.some.inj (hacting.symm.trans hcall)
        exact Call.listens_iff.mpr (.inl hstage)
      · exact hsame hold
  | turn hacting hturn =>
      rcases changeCall_cases hacting hnow with ⟨rfl, rfl⟩ | ⟨_, hold⟩
      · cases hturn <;> cases hlistens
      · exact hsame hold
  | drop | route => exact hsame hnow
  | handOver =>
      obtain ⟨old, hold, ⟨rfl, rfl⟩ | ⟨_, rfl⟩⟩ := exists_of_changeCall hnow
      · obtain rfl := Option.some.inj (hold.symm.trans hcall)
        rwa [Call.listens_iff, Call.receive_stage, ← Call.listens_iff] at hlistens
      · exact hsame hold
  | leave hacting =>
      rcases changeCall_cases hacting hnow with ⟨rfl, rfl⟩ | ⟨_, hold⟩
      · cases hlistens
      · exact hsame hold
  | evict hacting =>
      obtain ⟨left, hleft, habandoned⟩ := exists_of_changeCall hnow
      have hleftListens : left.listens = true := by
        rcases habandoned with ⟨_, rfl⟩ | ⟨_, rfl⟩
        · rwa [Call.listens_iff, Call.abandon_stage, ← Call.listens_iff] at hlistens
        · exact hlistens
      rcases changeCall_cases hacting hleft with ⟨rfl, rfl⟩ | ⟨_, hold⟩
      · cases hleftListens
      · obtain rfl := Option.some.inj (hold.symm.trans hcall)
        exact hleftListens

theorem Recorded.calls_step {step : Step} {now : Call} (h : Recorded log client)
    (hnext : client.step step = some next)
    (hnow : next.calls[place]? = some now) :
    Told (log ++ (client.occurrence next step).toList) place now := by
  have hkept : ∀ {later : List Occurrence}, client.calls[place]? = some now →
      Told (log ++ later) place now := fun hold => (h.calls place now hold).mono _
  have hstep := stepsTo_of_step hnext
  cases hstep with
  | refuse =>
      rcases getElem?_addCall_eq_some.mp hnow with hold | ⟨_, rfl⟩
      · exact hkept hold
      · exact told_of_failed rfl rfl
  | register hid =>
      rcases getElem?_addCall_eq_some.mp hnow with hold | ⟨rfl, rfl⟩
      · exact hkept hold
      · rw [occurrence_register]
        exact told_of_registered log _ ⟨_, _, _, .registered, .awaiting⟩ hid rfl rfl
  | send hacting hstage =>
      rcases changeCall_cases hacting hnow with ⟨rfl, rfl⟩ | ⟨_, hold⟩
      · rw [occurrence_send hacting]
        exact (h.calls _ _ hacting).send hstage
      · exact hkept hold
  | turn hacting hturn =>
      rcases changeCall_cases hacting hnow with ⟨rfl, rfl⟩ | ⟨_, hold⟩
      · exact (h.calls _ _ hacting).turn hacting hturn
      · exact hkept hold
  | drop | route => exact hkept hnow
  | handOver hheld =>
      obtain ⟨old, hold, ⟨rfl, rfl⟩ | ⟨_, rfl⟩⟩ := exists_of_changeCall hnow
      · rw [occurrence_handOver hheld]
        exact (h.calls _ old hold).receive (h.carried _ _ old hheld hold)
      · exact hkept hold
  | leave hacting =>
      rcases changeCall_cases hacting hnow with ⟨rfl, rfl⟩ | ⟨_, hold⟩
      · exact ((h.calls _ _ hacting).fail _).mono _
      · exact hkept hold
  | evict hacting =>
      obtain ⟨left, hleft, habandoned⟩ := exists_of_changeCall hnow
      -- the call that leaves may be the one that loses its entry
      have htold : ∀ later, Told (log ++ later) place left := by
        intro later
        rcases changeCall_cases hacting hleft with ⟨rfl, rfl⟩ | ⟨_, hold⟩
        · exact ((h.calls _ _ hacting).fail _).mono later
        · exact (h.calls place left hold).mono later
      rcases habandoned with ⟨_, rfl⟩ | ⟨_, rfl⟩
      · exact (htold _).abandon
      · exact htold _

theorem Recorded.step {step : Step} (h : Recorded log client) (horderly : client.Orderly)
    (hnext : client.step step = some next) :
    Recorded (log ++ (client.occurrence next step).toList) next := by
  have hstep := stepsTo_of_step hnext
  refine ⟨fun place now hnow => h.calls_step hnext hnow, ?_⟩
  intro place datagram now hheld hnow hlistens
  -- whoever a datagram is held for was there before the step
  have hbefore : ∃ call, client.calls[place]? = some call := by
    rcases hstep.held_cases hheld with hold | ⟨_, id, _, hlisted⟩
    · obtain ⟨call, hcall, _⟩ := horderly.carried place datagram hold
      exact ⟨call, hcall⟩
    · obtain ⟨call, hcall, _⟩ := horderly.holders id place hlisted
      exact ⟨call, hcall⟩
  obtain ⟨call, hcall⟩ := hbefore
  obtain ⟨same, hsame, hfollows⟩ := hstep.follows hcall
  obtain rfl := Option.some.inj (hsame.symm.trans hnow)
  have hlistened := hstep.listened hcall hnow hlistens
  rw [hfollows.query, hfollows.wireId]
  rcases hstep.held_cases hheld with hold | ⟨rfl, _⟩
  · exact (h.carried place datagram call hold hcall hlistened).trans (List.sublist_append_left _ _)
  · have hrouted : client.occurrence next (.arrive datagram) = some (routed place datagram) := by
      rw [occurrence, hheld]
      rfl
    rw [hrouted]
    exact sublist_snoc ((h.calls place call hcall).listed hlistened) (routed place datagram)

/-! ## The main statement -/

theorem recorded_of_run (server : SocketAddress) (timeoutMilliseconds : Nat) {steps : List Step}
    (hrun : (Client.idle server timeoutMilliseconds).run steps = some client) :
    client.Orderly ∧ Ledger ((Client.idle server timeoutMilliseconds).log steps) client ∧
      Recorded ((Client.idle server timeoutMilliseconds).log steps) client := by
  have hstart := And.intro (Orderly.idle server timeoutMilliseconds)
    (And.intro (Ledger.idle server timeoutMilliseconds) (Recorded.idle server timeoutMilliseconds))
  have hlast := log_induction
    (motive := fun log client => client.Orderly ∧ Ledger log client ∧ Recorded log client)
    ?_ hstart hrun
  · rwa [List.nil_append] at hlast
  · intro log client step next hnext hstep ⟨horderly, hledger, hrecorded⟩
    exact ⟨horderly.step hstep, hledger.step horderly hnext, hrecorded.step horderly hnext⟩

/-- A datagram that is no response, or has an ID under which no call is registered, changes
nothing. -/
theorem arrive_stray (hfree : client.held = none)
    (hstray : Datagram.isResponse datagram = false ∨
      ∀ id place, Datagram.id datagram = .ok id → (id, place) ∉ client.pending) :
    client.step (.arrive datagram) = some client := by
  change client.arrive datagram = some client
  unfold arrive
  rw [hfree]
  cases hresponse : Datagram.isResponse datagram with
  | false => rfl
  | true =>
      cases hid : Datagram.id datagram with
      | error fault => rfl
      | ok id =>
          have hunlisted : client.pending.lookup id = none := by
            cases hfound : client.pending.lookup id with
            | none => rfl
            | some place =>
                have hlisted := mem_pending_of_lookup hfound
                rcases hstray with hquery | hunlisted
                · rw [hresponse] at hquery
                  cases hquery
                · exact absurd hlisted (hunlisted id place hid)
          simp [hunlisted]

/-- **Datagrams and responses.**  Whatever arrives and however the calls interleave, each call
is handed at most one datagram, each datagram that arrives is handed to at most one call, and
what is on the wire was sent by the calls.  The query of a call that returns a response was sent
with its first two bytes replaced by the ID that the call is registered under, and the response
is a datagram with that ID that was routed to the call after it was registered and handed to it,
with its first two bytes replaced by those of the query.  Any other datagram changes nothing. -/
theorem datagrams_correlated (server : SocketAddress) (timeoutMilliseconds : Nat)
    {steps : List Step} {client : Client}
    (hrun : (Client.idle server timeoutMilliseconds).run steps = some client) :
    let log := (Client.idle server timeoutMilliseconds).log steps
    ((handings log).map Prod.fst).Nodup ∧
    ((handings log).map Prod.snd).Sublist (arrivals steps) ∧
    client.wire = sendings log ∧
    (∀ (place : Nat) (call : Call) (datagram : Bytes), client.calls[place]? = some call →
      call.channel = .filled datagram → (place, datagram) ∈ handings log) ∧
    (∀ (place : Nat) (response : Bytes), client.result? place = some (.ok response) →
      ∃ call datagram, client.calls[place]? = some call ∧
        [registered place call.query call.wireId,
          sent place (Wire.bytes16 call.wireId ++ call.query.drop 2),
          returned place response].Sublist log ∧
        [registered place call.query call.wireId, routed place datagram, handed place datagram,
          returned place response].Sublist log ∧
        3 ≤ datagram.length ∧ Datagram.isResponse datagram = true ∧
        Datagram.id datagram = .ok call.wireId ∧ Datagram.id call.query = .ok call.ownId ∧
        response = Wire.bytes16 call.ownId ++ datagram.drop 2) ∧
    ∀ datagram, client.held = none →
      (Datagram.isResponse datagram = false ∨
        ∀ id place, Datagram.id datagram = .ok id → (id, place) ∉ client.pending) →
      client.step (.arrive datagram) = some client := by
  intro log
  obtain ⟨horderly, hledger, hrecorded⟩ := recorded_of_run server timeoutMilliseconds hrun
  change Ledger log client at hledger
  change Recorded log client at hrecorded
  -- what is handed over was routed before
  have hhanded : (handings log).Sublist (routings log) := by
    rw [hledger.handed]
    exact List.sublist_append_left _ _
  refine ⟨?_, ?_, hledger.sent, ?_, ?_, fun datagram hfree hstray => arrive_stray hfree hstray⟩
  · exact (hhanded.map Prod.fst).nodup hledger.once
  · exact (hhanded.map Prod.snd).trans (routings_sublist_arrivals _ steps)
  · intro place call datagram hcall hfilled
    have htold := (hrecorded.calls place call hcall).filled datagram hfilled
    have hmem : handed place datagram ∈ log := htold.subset (by simp)
    exact List.mem_filterMap.mpr ⟨_, hmem, rfl⟩
  · intro place response hresult
    obtain ⟨call, hcall, hstage⟩ := exists_call_of_result? hresult
    have hsound := horderly.sound place call hcall
    have htold := hrecorded.calls place call hcall
    obtain ⟨datagram, hfilled, hresponse⟩ := hsound.returned response hstage
    obtain ⟨hisResponse, hid⟩ := hsound.filled datagram hfilled
    obtain ⟨hasked, hanswered⟩ := htold.answered response hstage
    have hread := htold.id_query (by simp [hstage])
    have hdatagram : call.datagram = Wire.bytes16 call.wireId ++ call.query.drop 2 :=
      datagram_eq_of_withId (Datagram.withId_of_id hread call.wireId)
    have hbytes : response = Wire.bytes16 call.ownId ++ datagram.drop 2 :=
      Except.ok.inj (hresponse.symm.trans (Datagram.withId_of_id hid call.ownId))
    exact ⟨call, datagram, hcall, hdatagram ▸ hasked, hanswered datagram hfilled,
      Datagram.length_of_isResponse hisResponse, hisResponse, hid, hread, hbytes⟩

/-- Each call returns the datagram that was handed to it.  The one that comes again is dropped,
and so is a query. -/
theorem datagrams_correlated_crossed :
    (Client.idle loopback 100).run crossedSteps = some crossedClient ∧
    crossedClient.result? 0 = some (.ok (shortMessage 1 129 97)) ∧
    handings ((Client.idle loopback 100).log crossedSteps) =
      [(1, shortMessage 6 129 98), (0, shortMessage 5 129 97)] ∧
    arrivals crossedSteps =
      [shortMessage 6 129 98, shortMessage 6 129 98, shortMessage 5 129 97] ∧
    (∃ datagram, [registered 0 (shortMessage 1 1 97) 5, routed 0 datagram, handed 0 datagram,
        returned 0 (shortMessage 1 129 97)].Sublist
          ((Client.idle loopback 100).log crossedSteps) ∧
      shortMessage 1 129 97 = Wire.bytes16 1 ++ datagram.drop 2) ∧
    crossedClient.held = none ∧ Datagram.isResponse (shortMessage 5 1 97) = false ∧
    crossedClient.step (.arrive (shortMessage 5 1 97)) = some crossedClient := by
  have hrun : (Client.idle loopback 100).run crossedSteps = some crossedClient := rfl
  have hresult : crossedClient.result? 0 = some (.ok (shortMessage 1 129 97)) := rfl
  have hquery : Datagram.isResponse (shortMessage 5 1 97) = false := by decide
  obtain ⟨_, _, _, _, hreturned, hstray⟩ := datagrams_correlated loopback 100 hrun
  obtain ⟨call, datagram, hcall, _, hlog, _, _, _, _, hbytes⟩ := hreturned 0 _ hresult
  obtain rfl := Option.some.inj hcall
  exact ⟨hrun, hresult, rfl, rfl, ⟨datagram, hlog, hbytes⟩, rfl, hquery,
    hstray _ rfl (.inl hquery)⟩

end Client

end Udp

end DnsForwarder
