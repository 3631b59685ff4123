import DnsForwarder.Proofs.Udp.Log

/-!
# IDs are given back

A call registers an ID and may come to its end in five ways; the receiver and the calls each
take entries out of the register in steps of their own, and leaving goes by the ID and not by
the call.  Still no ID is kept: an entry of the register belongs to a call that is under way
(`Owned`).  What is taken out too early, because an earlier call leaves, is not left behind.

A call can only fail on registering, or on leaving, when its entry is gone (`fails_of_step`);
one that returns has taken a datagram, and the receiver takes an entry out before it hands the
datagram over.  So a client without calls under way has an empty register, and since each call
holds one ID, the IDs are used up only while as many calls are under way as there are IDs
(`ids_released`).
-/

namespace DnsForwarder.Udp

open Occurrence

/-- The call has come to neither a response nor a fault. -/
def Call.underWay (call : Call) : Bool :=
  match call.stage with
  | .registered | .waiting | .leaving _ => true
  | .returned _ | .failed _ => false

theorem Call.underWay_of_stage {call : Call}
    (hreturned : ∀ response, call.stage ≠ .returned response)
    (hfailed : ∀ fault, call.stage ≠ .failed fault) : call.underWay = true := by
  unfold Call.underWay
  split
  · rfl
  · rfl
  · rfl
  · rename_i response hstage
    exact absurd hstage (hreturned response)
  · rename_i fault hstage
    exact absurd hstage (hfailed fault)

namespace Client

variable {client next : Client} {place : Nat} {call now : Call} {log : List Occurrence}

/-- How many calls are under way. -/
def callsUnderWay (client : Client) : Nat := client.calls.countP Call.underWay

/-! ## How a call fails -/

/-- A call is refused an ID only while all are taken. -/
theorem pending_of_register {query : Bytes} {wireId : UInt16}
    (hnext : client.register query wireId = some next)
    (hnow : next.calls[client.calls.length]? = some now)
    (hfailed : now.stage = .failed .idsExhausted) : idCount ≤ client.pending.length := by
  unfold register at hnext
  cases hid : Datagram.id query with
  | error fault =>
      rw [hid] at hnext
      obtain rfl := Option.some.inj hnext
      rcases getElem?_addCall_eq_some.mp hnow with hold | ⟨_, rfl⟩
      · simp at hold
      · obtain rfl := Stage.failed.inj hfailed
        match query with
        | [] => cases hid
        | [_] => cases hid
        | _ :: _ :: _ => cases hid
  | ok ownId =>
      rw [hid] at hnext
      dsimp only at hnext
      split at hnext
      · assumption
      · split at hnext
        · cases hnext
        · obtain rfl := Option.some.inj hnext
          rcases getElem?_addCall_eq_some.mp hnow with hold | ⟨_, rfl⟩
          · simp at hold
          · cases hfailed

/-- A call that has failed after a step had failed before, is refused by it, or leaves. -/
theorem fails_of_step {step : Step} {fault : Fault} (hnext : client.step step = some next)
    (h : client.Orderly) (hnow : next.calls[place]? = some now)
    (hfailed : now.stage = .failed fault) :
    (∃ call, client.calls[place]? = some call ∧ call.stage = .failed fault) ∨
    (∃ query wireId, step = .register query wireId ∧ place = client.calls.length ∧
      (fault = .idsExhausted → idCount ≤ client.pending.length)) ∨
    ∃ call, client.calls[place]? = some call ∧ call.stage = .leaving fault ∧
      ∀ id, (id, place) ∉ next.pending := by
  -- the entry of a call that leaves is the one under its ID
  have hgone : ∀ {call : Call}, client.calls[place]? = some call →
      ∀ id, (id, place) ∉ (client.removeId call.wireId).pending := by
    intro call hcall id hlisted
    obtain ⟨hkept, hother⟩ := (mem_pending_removeId client call.wireId _).mp hlisted
    exact hother (h.wireId_eq hkept hcall).1.symm
  have hstep := stepsTo_of_step hnext
  cases hstep with
  | refuse query _ wireId =>
      rcases getElem?_addCall_eq_some.mp hnow with hold | ⟨rfl, _⟩
      · exact .inl ⟨now, hold, hfailed⟩
      · refine .inr (.inl ⟨query, wireId, rfl, rfl, ?_⟩)
        rintro rfl
        exact pending_of_register hnext hnow hfailed
  | register =>
      rcases getElem?_addCall_eq_some.mp hnow with hold | ⟨_, rfl⟩
      · exact .inl ⟨now, hold, hfailed⟩
      · cases hfailed
  | send hcall =>
      rcases changeCall_cases hcall hnow with ⟨_, rfl⟩ | ⟨_, hold⟩
      · cases hfailed
      · exact .inl ⟨now, hold, hfailed⟩
  | turn hcall hturn =>
      rcases changeCall_cases hcall hnow with ⟨_, rfl⟩ | ⟨_, hold⟩
      · cases hturn with
        | fumble _ hchannel hfault =>
            exact absurd hfault ((h.sound _ _ hcall).withId_ne_error hchannel _)
        | _ => cases hfailed
      · exact .inl ⟨now, hold, hfailed⟩
  | drop | route => exact .inl ⟨now, hnow, hfailed⟩
  | handOver =>
      obtain ⟨old, hold, ⟨_, rfl⟩ | ⟨_, rfl⟩⟩ := exists_of_changeCall hnow
      · exact .inl ⟨old, hold, (Call.receive_stage _ old).symm.trans hfailed⟩
      · exact .inl ⟨now, hold, hfailed⟩
  | leave hcall hstage =>
      rcases changeCall_cases hcall hnow with ⟨rfl, rfl⟩ | ⟨_, hold⟩
      · obtain rfl := Stage.failed.inj hfailed
        exact .inr (.inr ⟨_, hcall, hstage, hgone hcall⟩)
      · exact .inl ⟨now, hold, hfailed⟩
  | evict hcall hstage =>
      obtain ⟨left, hleft, habandoned⟩ := exists_of_changeCall hnow
      -- losing its entry does not make a call fail
      have hleftFailed : left.stage = .failed fault := by
        rcases habandoned with ⟨_, rfl⟩ | ⟨_, rfl⟩
        · exact (Call.abandon_stage left).symm.trans hfailed
        · exact hfailed
      rcases changeCall_cases hcall hleft with ⟨rfl, rfl⟩ | ⟨_, hold⟩
      · obtain rfl := Stage.failed.inj hleftFailed
        exact .inr (.inr ⟨_, hcall, hstage, hgone hcall⟩)
      · exact .inl ⟨left, hold, hleftFailed⟩

/-! ## Who holds an ID -/

/-- Each entry was registered by a call that is still under way. -/
def Owned (log : List Occurrence) (client : Client) : Prop :=
  ∀ id place, (id, place) ∈ client.pending → ∃ call, client.calls[place]? = some call ∧
    call.underWay = true ∧ registered place call.query id ∈ log

theorem Owned.idle (server : SocketAddress) (timeoutMilliseconds : Nat) :
    Owned [] (Client.idle server timeoutMilliseconds) := by
  simp [Owned, Client.idle]

theorem Owned.step {step : Step} (h : Owned log client) (horderly : client.Orderly)
    (hnext : client.step step = some next) :
    Owned (log ++ (client.occurrence next step).toList) next := by
  have hstep := stepsTo_of_step hnext
  have hlater := horderly.step hstep
  intro id place hlisted
  obtain ⟨now, hnow, hwire, hawaiting⟩ := hlater.holders id place hlisted
  have hreturned : ∀ response, now.stage ≠ .returned response := by
    intro response hstage
    obtain ⟨datagram, hfilled, _⟩ := (hlater.sound place now hnow).returned response hstage
    rw [hawaiting] at hfilled
    cases hfilled
  rcases hstep.pending_cases hlisted with hold | rfl
  · obtain ⟨call, hcall, hunderWay, hlogged⟩ := h id place hold
    obtain ⟨same, hsame, hfollows⟩ := hstep.follows hcall
    obtain rfl := Option.some.inj (hsame.symm.trans hnow)
    refine ⟨same, hnow, Call.underWay_of_stage hreturned fun fault hfailed => ?_, ?_⟩
    · rcases fails_of_step hnext horderly hnow hfailed with
        ⟨old, hold, hstage⟩ | ⟨_, _, _, rfl, _⟩ | ⟨_, _, _, hgone⟩
      · obtain rfl := Option.some.inj (hold.symm.trans hcall)
        simp [Call.underWay, hstage] at hunderWay
      · simp at hcall
      · exact hgone id hlisted
    · rw [hfollows.query]
      exact List.mem_append_left _ hlogged
  · -- the entry is new, and so is its call
    have hnew : (id, client.calls.length) ∉ client.pending := by
      intro hold
      obtain ⟨old, hcall, _⟩ := horderly.holders id _ hold
      simp at hcall
    cases hstep with
    | register =>
        rcases getElem?_addCall_eq_some.mp hnow with hold | ⟨_, rfl⟩
        · simp at hold
        · subst hwire
          rw [occurrence_register]
          exact ⟨_, hnow, rfl, List.mem_append_right _ (List.mem_singleton_self _)⟩
    | refuse | send | turn | drop | handOver => exact absurd hlisted hnew
    | route | leave | evict =>
        exact absurd ((mem_pending_removeId client _ _).mp hlisted).1 hnew

theorem owned_of_run (server : SocketAddress) (timeoutMilliseconds : Nat) {steps : List Step}
    (hrun : (Client.idle server timeoutMilliseconds).run steps = some client) :
    client.Orderly ∧ Owned ((Client.idle server timeoutMilliseconds).log steps) client := by
  have hstart := And.intro (Orderly.idle server timeoutMilliseconds)
    (Owned.idle server timeoutMilliseconds)
  have hlast := log_induction (motive := fun log client => client.Orderly ∧ Owned log client)
    ?_ hstart hrun
  · rwa [List.nil_append] at hlast
  · intro log client step next hnext hstep ⟨horderly, howned⟩
    exact ⟨horderly.step hstep, howned.step horderly hnext⟩

/-- Each call holds one ID at most. -/
theorem Owned.length_pending_le (h : Owned log client) (horderly : client.Orderly) :
    client.pending.length ≤ client.callsUnderWay := by
  have hplaces : (client.pending.map Prod.snd).Nodup := by
    refine List.Nodup.map_on ?_ (List.Nodup.of_map _ horderly.distinct)
    rintro ⟨id, place⟩ hentry ⟨other, _⟩ hother rfl
    obtain ⟨call, hcall, hwire, _⟩ := horderly.holders id place hentry
    obtain rfl := (horderly.wireId_eq hother hcall).1
    rw [hwire]
  have hunderWay : client.pending.map Prod.snd ⊆ client.calls.findIdxs Call.underWay := by
    intro place hplace
    obtain ⟨⟨id, _⟩, hentry, rfl⟩ := List.mem_map.mp hplace
    obtain ⟨call, hcall, hcallUnderWay, _⟩ := h id _ hentry
    obtain ⟨hbound, rfl⟩ := List.getElem?_eq_some_iff.mp hcall
    exact List.mem_findIdxs_iff_exists_getElem_pos.mpr ⟨hbound, hcallUnderWay⟩
  calc
    client.pending.length = (client.pending.map Prod.snd).length := (List.length_map _).symm
    _ ≤ (client.calls.findIdxs Call.underWay).length := hplaces.length_le_of_subset hunderWay
    _ = client.callsUnderWay := List.length_findIdxs

/-! ## The main statement -/

theorem exists_call_of_error {fault : Fault} (h : client.result? place = some (.error fault)) :
    ∃ call, client.calls[place]? = some call ∧ call.stage = .failed fault := by
  unfold result? at h
  cases hcall : client.calls[place]? with
  | none => simp [hcall] at h
  | some call =>
      refine ⟨call, rfl, ?_⟩
      rw [hcall, Option.map_some] at h
      split at h <;> simp_all

/-- A call that was told that all IDs are in use was refused when it began. -/
theorem exists_refusal {last : Client} {steps : List Step} (horderly : client.Orderly)
    (hrun : client.run steps = some last) (hcall : last.calls[place]? = some call)
    (hfailed : call.stage = .failed .idsExhausted) :
    (∃ old, client.calls[place]? = some old ∧ old.stage = .failed .idsExhausted) ∨
    ∃ before after query wireId middle, steps = before ++ .register query wireId :: after ∧
      client.run before = some middle ∧ place = middle.calls.length ∧
      idCount ≤ middle.pending.length := by
  induction steps generalizing client with
  | nil =>
      obtain rfl := Option.some.inj hrun
      exact .inl ⟨call, hcall, hfailed⟩
  | cons step rest ih =>
      obtain ⟨next, hnext, hrest⟩ := Option.bind_eq_some_iff.mp hrun
      rcases ih (horderly.step (stepsTo_of_step hnext)) hrest with
        ⟨now, hnow, hstage⟩ | ⟨before, after, query, wireId, middle, rfl, hbefore, hplace, hfull⟩
      · rcases fails_of_step hnext horderly hnow hstage with
          hold | ⟨query, wireId, rfl, hplace, hfull⟩ | ⟨old, hold, hleaving, _⟩
        · exact .inl hold
        · exact .inr ⟨[], rest, query, wireId, client, rfl, rfl, hplace, hfull rfl⟩
        · rcases (horderly.sound place old hold).leaving _ hleaving with hgives | ⟨hstopped, _⟩
          · cases hgives
          · cases hstopped
      · refine .inr ⟨step :: before, after, query, wireId, middle, rfl, ?_, hplace, hfull⟩
        exact Option.bind_eq_some_iff.mpr ⟨next, hnext, hbefore⟩

/-- **No ID is kept.**  Whatever arrives and however the calls come to their ends and interleave,
each entry of the register was registered by a call that is still under way.  So the register is
empty when no call is, and a call is told that all IDs are in use only if 65536 other calls are
under way when it begins. -/
theorem ids_released (server : SocketAddress) (timeoutMilliseconds : Nat) {steps : List Step}
    (hrun : (Client.idle server timeoutMilliseconds).run steps = some client) :
    (∀ id place, (id, place) ∈ client.pending → ∃ call, client.calls[place]? = some call ∧
      call.underWay = true ∧
      registered place call.query id ∈ (Client.idle server timeoutMilliseconds).log steps) ∧
    (client.callsUnderWay = 0 → client.pending = []) ∧
    ∀ place, client.result? place = some (.error .idsExhausted) →
      ∃ before after query wireId middle, steps = before ++ .register query wireId :: after ∧
        (Client.idle server timeoutMilliseconds).run before = some middle ∧
        place = middle.calls.length ∧ 65536 ≤ middle.callsUnderWay := by
  obtain ⟨horderly, howned⟩ := owned_of_run server timeoutMilliseconds hrun
  refine ⟨howned, fun hidle => ?_, fun place hresult => ?_⟩
  · have hlength := howned.length_pending_le horderly
    rw [hidle] at hlength
    exact List.length_eq_zero_iff.mp (Nat.le_zero.mp hlength)
  · obtain ⟨call, hcall, hfailed⟩ := exists_call_of_error hresult
    rcases exists_refusal (Orderly.idle server timeoutMilliseconds) hrun hcall hfailed with
      ⟨old, hold, _⟩ | ⟨before, after, query, wireId, middle, hsteps, hbefore, hplace, hfull⟩
    · simp [Client.idle] at hold
    · obtain ⟨hmiddle, hmiddleOwned⟩ := owned_of_run server timeoutMilliseconds hbefore
      exact ⟨before, after, query, wireId, middle, hsteps, hbefore, hplace,
        Nat.le_trans hfull (hmiddleOwned.length_pending_le hmiddle)⟩

/-- Two calls with the same ID: the first one leaves while the second one is registered, and the
second one has left too. -/
theorem ids_released_robbed :
    ∃ client, (Client.idle loopback 100).run robbedSteps = some client ∧
      client.calls.map Call.wireId = [5, 5] ∧ client.callsUnderWay = 0 ∧ client.pending = [] := by
  have hrun : ∃ client, (Client.idle loopback 100).run robbedSteps = some client ∧
      client.calls.map Call.wireId = [5, 5] ∧ client.callsUnderWay = 0 :=
    ⟨_, rfl, rfl, rfl⟩
  obtain ⟨client, hrun, hwire, hidle⟩ := hrun
  obtain ⟨_, hempty, _⟩ := ids_released loopback 100 hrun
  exact ⟨client, hrun, hwire, hidle, hempty hidle⟩

end Client

end DnsForwarder.Udp
