import DnsForwarder.Proofs.Udp.Step

/-!
# The register of the calls under way

`Client.Orderly` is what the register, the receiver and the calls know of each other after
every history: no ID is registered twice, a registered call and one that a datagram is held
for wait for a datagram with their ID, and what a call holds has its ID.

Leaving goes by the ID alone, so nothing here says that the entry of a call goes only
through the call itself or the receiver.
-/

namespace DnsForwarder.Udp

/-- Why a call gives up by itself: its query was not sent, or its time was over. -/
inductive GivesUp : Fault → Prop
  | unsent (cause : SystemFault) : GivesUp (.system cause)
  | late (server : String) (milliseconds : Nat) : GivesUp (.noAnswer server milliseconds)

namespace Call

theorem listens_iff {call : Call} :
    call.listens = true ↔ call.stage = .registered ∨ call.stage = .waiting := by
  unfold listens
  split <;> simp_all

/-- A call neither listens once it leaves nor when it has come to an end. -/
theorem deaf_of_stage {call : Call} {stage : Stage} (hstage : call.stage = stage)
    (hregistered : stage ≠ .registered) (hwaiting : stage ≠ .waiting) : call.listens ≠ true := by
  rw [ne_eq, listens_iff, hstage]
  exact not_or.mpr ⟨hregistered, hwaiting⟩

/-- What a call knows by itself. -/
structure Sound (call : Call) : Prop where
  filled : ∀ datagram, call.channel = .filled datagram →
    Datagram.isResponse datagram = true ∧ Datagram.id datagram = .ok call.wireId
  returned : ∀ response, call.stage = .returned response →
    ∃ datagram, call.channel = .filled datagram ∧
      Datagram.withId call.ownId datagram = .ok response
  leaving : ∀ fault, call.stage = .leaving fault →
    GivesUp fault ∨ fault = .clientStopped ∧ call.channel = .closed

theorem Sound.receive {call : Call} {datagram : Bytes} (h : call.Sound)
    (hresponse : Datagram.isResponse datagram = true)
    (hid : Datagram.id datagram = .ok call.wireId) : (call.receive datagram).Sound := by
  unfold Call.receive
  split
  · rename_i hlistens
    constructor
    · intro other hother
      obtain rfl := Channel.filled.inj hother
      exact ⟨hresponse, hid⟩
    · intro response hstage
      exact absurd hlistens (deaf_of_stage hstage nofun nofun)
    · intro fault hstage
      exact absurd hlistens (deaf_of_stage hstage nofun nofun)
  · exact h

theorem Sound.abandon {call : Call} (h : call.Sound) : call.abandon.Sound := by
  rcases abandon_cases call with ⟨hawaiting, habandon⟩ | ⟨_, habandon⟩
  · rw [habandon]
    constructor
    · intro datagram hchannel
      cases hchannel
    · intro response hstage
      obtain ⟨datagram, hfilled, _⟩ := h.returned response hstage
      rw [hawaiting] at hfilled
      cases hfilled
    · intro fault hstage
      exact (h.leaving fault hstage).imp_right fun hstopped => ⟨hstopped.1, rfl⟩
  · rwa [habandon]

/-- A call can give its own ID to the datagram it holds. -/
theorem Sound.withId_ne_error {call : Call} {datagram : Bytes} (h : call.Sound)
    (hchannel : call.channel = .filled datagram) (fault : Fault) :
    Datagram.withId call.ownId datagram ≠ .error fault := by
  obtain ⟨_, hid⟩ := h.filled datagram hchannel
  rw [Datagram.withId_of_id hid]
  nofun

theorem Sound.turn {call : Call} {place : Nat} {step : Step} {stage : Stage} (h : call.Sound)
    (hturn : call.Turns place step stage) : Sound { call with stage } := by
  refine ⟨h.filled, ?_, ?_⟩
  · intro response hstage
    cases hturn with
    | take _ hchannel hresponse =>
        obtain rfl := Stage.returned.inj hstage
        exact ⟨_, hchannel, hresponse⟩
    | _ => cases hstage
  · intro fault hstage
    cases hturn with
    | unsent _ cause =>
        obtain rfl := Stage.leaving.inj hstage
        exact .inl (.unsent cause)
    | stop _ hchannel =>
        obtain rfl := Stage.leaving.inj hstage
        exact .inr ⟨rfl, hchannel⟩
    | expire _ _ server milliseconds =>
        obtain rfl := Stage.leaving.inj hstage
        exact .inl (.late server milliseconds)
    | _ => cases hstage

/-- A call that turns had not failed. -/
theorem Turns.not_failed {call : Call} {place : Nat} {step : Step} {stage : Stage}
    (hturn : call.Turns place step stage) (fault : Fault) : call.stage ≠ .failed fault := by
  intro hfailed
  cases hturn <;> simp_all

end Call

namespace Client

structure Orderly (client : Client) : Prop where
  distinct : (client.pending.map Prod.fst).Nodup
  holders : ∀ id place, (id, place) ∈ client.pending →
    ∃ call, client.calls[place]? = some call ∧ call.wireId = id ∧ call.channel = .awaiting
  carried : ∀ place datagram, client.held = some (place, datagram) →
    ∃ call, client.calls[place]? = some call ∧ call.channel = .awaiting ∧
      Datagram.isResponse datagram = true ∧ Datagram.id datagram = .ok call.wireId ∧
      (call.wireId, place) ∉ client.pending
  sound : ∀ (place : Nat) (call : Call), client.calls[place]? = some call → call.Sound
  /-- While a call is registered, no call after it has its ID, but one that failed. -/
  latest : ∀ id place, (id, place) ∈ client.pending → ∀ (later : Nat) (call : Call), place < later →
    client.calls[later]? = some call → call.wireId = id → ∃ fault, call.stage = .failed fault

theorem Orderly.idle (server : SocketAddress) (timeoutMilliseconds : Nat) :
    (Client.idle server timeoutMilliseconds).Orderly := by
  constructor <;> simp [Client.idle]

variable {client next : Client} {place : Nat} {call : Call}

/-- A registered call is the only one under its ID. -/
theorem Orderly.eq_of_mem (h : client.Orderly) {id : UInt16} {place other : Nat}
    (hplace : (id, place) ∈ client.pending) (hother : (id, other) ∈ client.pending) :
    place = other :=
  congrArg Prod.snd (List.inj_on_of_nodup_map h.distinct hplace hother rfl)

theorem Orderly.lookup_eq_some (h : client.Orderly) {id : UInt16}
    (hplace : (id, place) ∈ client.pending) : client.pending.lookup id = some place := by
  cases hfound : client.pending.lookup id with
  | none => exact absurd rfl (ne_of_lookup_eq_none hfound hplace)
  | some other => rw [h.eq_of_mem hplace (mem_pending_of_lookup hfound)]

theorem Orderly.wireId_eq (h : client.Orderly) {id : UInt16}
    (hplace : (id, place) ∈ client.pending) (hcall : client.calls[place]? = some call) :
    call.wireId = id ∧ call.channel = .awaiting := by
  obtain ⟨holder, hholder, hid, hchannel⟩ := h.holders id place hplace
  rw [hcall] at hholder
  obtain rfl := Option.some.inj hholder
  exact ⟨hid, hchannel⟩

theorem Orderly.channel_of_held (h : client.Orderly) {datagram : Bytes}
    (hheld : client.held = some (place, datagram)) (hcall : client.calls[place]? = some call) :
    call.channel = .awaiting := by
  obtain ⟨carrier, hcarrier, hchannel, _⟩ := h.carried place datagram hheld
  rw [hcall] at hcarrier
  obtain rfl := Option.some.inj hcarrier
  exact hchannel

theorem Orderly.not_mem_of_held (h : client.Orderly) {datagram : Bytes}
    (hheld : client.held = some (place, datagram)) (id : UInt16) :
    (id, place) ∉ client.pending := by
  obtain ⟨carrier, hcarrier, _, _, _, hgone⟩ := h.carried place datagram hheld
  intro hplace
  obtain ⟨rfl, _⟩ := h.wireId_eq hplace hcarrier
  exact hgone hplace

theorem Orderly.removeId (h : client.Orderly) (id : UInt16) : (client.removeId id).Orderly := by
  have hkept : ∀ {entry}, entry ∈ (client.removeId id).pending → entry ∈ client.pending :=
    fun hentry => ((mem_pending_removeId client id _).mp hentry).1
  refine ⟨?_, ?_, ?_, h.sound, ?_⟩
  · exact (List.filter_sublist.map Prod.fst).nodup h.distinct
  · intro other place hplace
    exact h.holders other place (hkept hplace)
  · intro place datagram hheld
    obtain ⟨call, hcall, hchannel, hresponse, hid, hgone⟩ := h.carried place datagram hheld
    exact ⟨call, hcall, hchannel, hresponse, hid, fun hplace => hgone (hkept hplace)⟩
  · intro other place hplace
    exact h.latest other place (hkept hplace)

/-- A call that nothing is to come for can change its channel, any other call all but its
channel and its ID. -/
theorem Orderly.changeCall {change : Call → Call} (h : client.Orderly)
    (hcall : client.calls[place]? = some call) (hid : (change call).wireId = call.wireId)
    (hchannel : (change call).channel = call.channel ∨
      (∀ id, (id, place) ∉ client.pending) ∧ ∀ datagram, client.held ≠ some (place, datagram))
    (hsound : (change call).Sound)
    (hfailed : ∀ fault, call.stage = .failed fault →
      ∃ fault, (change call).stage = .failed fault) :
    (client.changeCall place change).Orderly := by
  have hself := getElem?_changeCall_self change hcall
  refine ⟨h.distinct, ?_, ?_, ?_, ?_⟩
  · intro id other hother
    by_cases heq : place = other
    · subst heq
      obtain ⟨hwire, hawaiting⟩ := h.wireId_eq hother hcall
      rcases hchannel with hsame | ⟨hunlisted, _⟩
      · exact ⟨_, hself, hid.trans hwire, hsame.trans hawaiting⟩
      · exact absurd hother (hunlisted id)
    · obtain ⟨holder, hholder, hknown⟩ := h.holders id other hother
      exact ⟨holder, (getElem?_changeCall_of_ne change heq).trans hholder, hknown⟩
  · intro other datagram hheld
    obtain ⟨holder, hholder, hawaiting, hresponse, hdatagram, hgone⟩ :=
      h.carried other datagram hheld
    by_cases heq : place = other
    · subst heq
      obtain rfl := Option.some.inj (hholder.symm.trans hcall)
      rcases hchannel with hsame | ⟨_, hidle⟩
      · rw [← hid] at hdatagram hgone
        exact ⟨_, hself, hsame.trans hawaiting, hresponse, hdatagram, hgone⟩
      · exact absurd hheld (hidle datagram)
    · exact ⟨holder, (getElem?_changeCall_of_ne change heq).trans hholder, hawaiting, hresponse,
        hdatagram, hgone⟩
  · intro other now hnow
    rcases changeCall_cases hcall hnow with ⟨rfl, rfl⟩ | ⟨_, hold⟩
    · exact hsound
    · exact h.sound other now hold
  · intro id holder hholder later now hlater hnow hwire
    rcases changeCall_cases hcall hnow with ⟨rfl, rfl⟩ | ⟨_, hold⟩
    · rw [hid] at hwire
      obtain ⟨fault, hstage⟩ := h.latest id holder hholder place call hlater hcall hwire
      exact hfailed fault hstage
    · exact h.latest id holder hholder later now hlater hold hwire

/-- A call that has not failed goes on to another stage. -/
theorem Orderly.setStage {stage : Stage} (h : client.Orderly)
    (hcall : client.calls[place]? = some call) (hopen : ∀ fault, call.stage ≠ .failed fault)
    (hsound : Call.Sound { call with stage }) : (client.setStage place stage).Orderly :=
  h.changeCall hcall rfl (.inl rfl) hsound fun fault hstage => absurd hstage (hopen fault)

theorem Orderly.addCall (h : client.Orderly) (hchannel : call.channel = .awaiting)
    (hstage : (∃ fault, call.stage = .failed fault) ∨
      call.stage = .registered ∧ client.pending.lookup call.wireId = none) :
    (client.addCall call).Orderly := by
  have hkept : ∀ {place old}, client.calls[place]? = some old →
      (client.addCall call).calls[place]? = some old :=
    fun hold => getElem?_addCall_eq_some.mpr (.inl hold)
  refine ⟨h.distinct, ?_, ?_, ?_, ?_⟩
  · intro id place hplace
    obtain ⟨holder, hholder, hknown⟩ := h.holders id place hplace
    exact ⟨holder, hkept hholder, hknown⟩
  · intro place datagram hheld
    obtain ⟨holder, hholder, hknown⟩ := h.carried place datagram hheld
    exact ⟨holder, hkept hholder, hknown⟩
  · intro place old hplace
    rcases getElem?_addCall_eq_some.mp hplace with hold | ⟨_, rfl⟩
    · exact h.sound place old hold
    · constructor
      · intro datagram hfilled
        rw [hchannel] at hfilled
        cases hfilled
      · intro response hreturned
        rcases hstage with ⟨fault, hfailed⟩ | ⟨hregistered, _⟩ <;> simp_all
      · intro fault hleaving
        rcases hstage with ⟨fault, hfailed⟩ | ⟨hregistered, _⟩ <;> simp_all
  · intro id place hplace later old hlater hold hwire
    rcases getElem?_addCall_eq_some.mp hold with hold | ⟨_, rfl⟩
    · exact h.latest id place hplace later old hlater hold hwire
    · rcases hstage with hfailed | ⟨_, hfree⟩
      · exact hfailed
      · exact absurd hwire.symm (ne_of_lookup_eq_none hfree hplace)

/-- The call that is added may be registered under its ID if that is free. -/
theorem Orderly.register (h : client.Orderly) (hchannel : call.channel = .awaiting)
    (hstage : call.stage = .registered) (hfree : client.pending.lookup call.wireId = none) :
    Orderly { client.addCall call with
      pending := client.pending ++ [(call.wireId, client.calls.length)] } := by
  have hadded := h.addCall hchannel (.inr ⟨hstage, hfree⟩)
  have hcall : (client.addCall call).calls[client.calls.length]? = some call :=
    getElem?_addCall_eq_some.mpr (.inr ⟨rfl, rfl⟩)
  have hsplit : ∀ {id place}, (id, place) ∈ client.pending ++ [(call.wireId, client.calls.length)] →
      (id, place) ∈ client.pending ∨ id = call.wireId ∧ place = client.calls.length := by
    intro id place hplace
    simpa using hplace
  refine ⟨?_, ?_, ?_, hadded.sound, ?_⟩
  · rw [List.map_append, List.nodup_append]
    refine ⟨h.distinct, by simp, ?_⟩
    intro id hid other hother
    obtain ⟨entry, hentry, rfl⟩ := List.mem_map.mp hid
    obtain rfl : other = call.wireId := by simpa using hother
    exact ne_of_lookup_eq_none hfree hentry
  · intro id place hplace
    rcases hsplit hplace with hold | ⟨rfl, rfl⟩
    · exact hadded.holders id place hold
    · exact ⟨call, hcall, rfl, hchannel⟩
  · intro place datagram hheld
    obtain ⟨holder, hholder, hawaiting, hresponse, hid, hgone⟩ :=
      h.carried place datagram hheld
    refine ⟨holder, getElem?_addCall_eq_some.mpr (.inl hholder), hawaiting, hresponse, hid, ?_⟩
    intro hplace
    rcases hsplit hplace with hold | ⟨_, rfl⟩
    · exact hgone hold
    · simp at hholder
  · intro id place hplace later other hlater hother hwire
    rcases hsplit hplace with hold | ⟨rfl, rfl⟩
    · exact hadded.latest id place hold later other hlater hother hwire
    · -- the new call is the last one
      rcases getElem?_addCall_eq_some.mp hother with hold | ⟨rfl, _⟩
      · rw [List.getElem?_eq_none (by omega)] at hold
        cases hold
      · omega

theorem Orderly.route (h : client.Orderly) {id : UInt16} {datagram : Bytes}
    (hresponse : Datagram.isResponse datagram = true) (hid : Datagram.id datagram = .ok id)
    (hplace : client.pending.lookup id = some place) :
    Orderly { client.removeId id with held := some (place, datagram) } := by
  have hremoved := h.removeId id
  refine ⟨hremoved.distinct, hremoved.holders, ?_, hremoved.sound, hremoved.latest⟩
  intro other held hheld
  obtain ⟨rfl, rfl⟩ := Prod.mk.inj (Option.some.inj hheld)
  obtain ⟨call, hcall, rfl, hchannel⟩ := h.holders id place (mem_pending_of_lookup hplace)
  refine ⟨call, hcall, hchannel, hresponse, hid, ?_⟩
  intro hkept
  exact ((mem_pending_removeId client _ _).mp hkept).2 rfl

theorem Orderly.handOver (h : client.Orderly) {datagram : Bytes}
    (hheld : client.held = some (place, datagram)) :
    ({ client with held := none }.changeCall place (Call.receive datagram)).Orderly := by
  obtain ⟨call, hcall, _, hresponse, hid, _⟩ := h.carried place datagram hheld
  have hempty : Orderly { client with held := none } :=
    ⟨h.distinct, h.holders, by simp, h.sound, h.latest⟩
  refine hempty.changeCall hcall (by simp) (.inr ⟨h.not_mem_of_held hheld, by simp⟩)
    ((h.sound place call hcall).receive hresponse hid) ?_
  intro fault hstage
  exact ⟨fault, (Call.receive_stage datagram call).trans hstage⟩

theorem Orderly.leave (h : client.Orderly) {fault : Fault}
    (hcall : client.calls[place]? = some call) (hstage : call.stage = .leaving fault) :
    ((client.removeId call.wireId).setStage place (.failed fault)).Orderly := by
  have hsound := h.sound place call hcall
  refine (h.removeId call.wireId).setStage hcall (by simp [hstage]) ⟨hsound.filled, ?_, ?_⟩
  · intro response hreturned
    cases hreturned
  · intro other hleaving
    cases hleaving

theorem Orderly.evict (h : client.Orderly) {fault : Fault} {holder : Nat}
    (hcall : client.calls[place]? = some call) (hstage : call.stage = .leaving fault)
    (hholder : client.pending.lookup call.wireId = some holder) :
    (((client.removeId call.wireId).setStage place (.failed fault)).changeCall holder
      Call.abandon).Orderly := by
  have hleft := h.leave hcall hstage
  have hlisted := mem_pending_of_lookup hholder
  obtain ⟨old, hold, hwire, _⟩ := h.holders call.wireId holder hlisted
  have hunlisted : ∀ id, (id, holder) ∉ (client.removeId call.wireId).pending := by
    intro id hplace
    obtain ⟨hkept, hother⟩ := (mem_pending_removeId client call.wireId _).mp hplace
    obtain ⟨rfl, _⟩ := h.wireId_eq hkept hold
    exact hother hwire
  have hidle : ∀ datagram, client.held ≠ some (holder, datagram) := by
    intro datagram hheld
    exact h.not_mem_of_held hheld call.wireId hlisted
  -- the call that loses its entry may be the one that leaves
  obtain ⟨now, hnow⟩ : ∃ now,
      ((client.removeId call.wireId).setStage place (.failed fault)).calls[holder]? = some now := by
    by_cases heq : place = holder
    · subst heq
      exact ⟨_, getElem?_changeCall_self _ hcall⟩
    · exact ⟨old, (getElem?_changeCall_of_ne _ heq).trans hold⟩
  refine hleft.changeCall hnow (by simp) (.inr ⟨hunlisted, hidle⟩)
    (hleft.sound holder now hnow).abandon ?_
  intro other hfailed
  exact ⟨other, (Call.abandon_stage now).trans hfailed⟩

theorem Orderly.step {step : Step} (h : client.Orderly) (hstep : client.StepsTo step next) :
    next.Orderly := by
  cases hstep with
  | refuse => exact h.addCall rfl (.inl ⟨_, rfl⟩)
  | register _ hfree => exact h.register rfl rfl hfree
  | send hcall hstage =>
      have hsound := h.sound _ _ hcall
      have hsent : (client.setStage _ .waiting).Orderly :=
        h.setStage hcall (by simp [hstage]) ⟨hsound.filled, nofun, nofun⟩
      exact ⟨hsent.distinct, hsent.holders, hsent.carried, hsent.sound, hsent.latest⟩
  | turn hcall hturn =>
      exact h.setStage hcall hturn.not_failed ((h.sound _ _ hcall).turn hturn)
  | drop => exact h
  | route _ hresponse hid hplace => exact h.route hresponse hid hplace
  | handOver hheld => exact h.handOver hheld
  | leave hcall hstage => exact h.leave hcall hstage
  | evict hcall hstage hholder => exact h.evict hcall hstage hholder

theorem Orderly.run {last : Client} {steps : List Step} (h : client.Orderly)
    (hrun : client.run steps = some last) : last.Orderly :=
  run_induction (fun _ _ _ _ hstep hclient => hclient.step hstep) h
    (along_of_forall (fun _ _ => trivial) client steps) hrun

end Client

end DnsForwarder.Udp
