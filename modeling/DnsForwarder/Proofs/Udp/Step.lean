import Mathlib
import DnsForwarder.Remote.Udp

/-!
# What a step of the client can do

`Client.StepsTo` lists what each step finds and what it leaves behind, one rule for each
outcome.  `stepsTo_of_step` is the only place where the steps themselves are opened; every
invariant is a case analysis over the rules.  The steps in which a call only goes on to
another stage are one rule, with `Call.Turns` for the stages.

A history may be bound to a condition on its steps, such as that no call takes out the entry
of another one, or that only answers to what was sent arrive.  `Along` says that every step
of a history meets its condition, and `run_induction` is the induction over such a history.
-/

namespace DnsForwarder.Udp

namespace Call

/-- The call with the datagram that is handed over to it. -/
def receive (datagram : Bytes) (call : Call) : Call :=
  if call.listens then { call with channel := .filled datagram } else call

/-- The call after its entry was taken out of the register. -/
def abandon (call : Call) : Call :=
  match call.channel with
  | .awaiting => { call with channel := .closed }
  | _ => call

@[simp] theorem receive_stage (datagram : Bytes) (call : Call) :
    (call.receive datagram).stage = call.stage := by
  unfold receive
  split <;> rfl

@[simp] theorem receive_query (datagram : Bytes) (call : Call) :
    (call.receive datagram).query = call.query := by
  unfold receive
  split <;> rfl

@[simp] theorem receive_ownId (datagram : Bytes) (call : Call) :
    (call.receive datagram).ownId = call.ownId := by
  unfold receive
  split <;> rfl

@[simp] theorem receive_wireId (datagram : Bytes) (call : Call) :
    (call.receive datagram).wireId = call.wireId := by
  unfold receive
  split <;> rfl

theorem abandon_cases (call : Call) :
    call.channel = .awaiting ∧ call.abandon = { call with channel := .closed } ∨
      call.channel ≠ .awaiting ∧ call.abandon = call := by
  unfold abandon
  split
  · rename_i hchannel
    exact .inl ⟨hchannel, rfl⟩
  · rename_i hchannel
    exact .inr ⟨hchannel, rfl⟩

@[simp] theorem abandon_stage (call : Call) : call.abandon.stage = call.stage := by
  rcases abandon_cases call with ⟨_, habandon⟩ | ⟨_, habandon⟩ <;> rw [habandon]

@[simp] theorem abandon_query (call : Call) : call.abandon.query = call.query := by
  rcases abandon_cases call with ⟨_, habandon⟩ | ⟨_, habandon⟩ <;> rw [habandon]

@[simp] theorem abandon_ownId (call : Call) : call.abandon.ownId = call.ownId := by
  rcases abandon_cases call with ⟨_, habandon⟩ | ⟨_, habandon⟩ <;> rw [habandon]

@[simp] theorem abandon_wireId (call : Call) : call.abandon.wireId = call.wireId := by
  rcases abandon_cases call with ⟨_, habandon⟩ | ⟨_, habandon⟩ <;> rw [habandon]

/-- The stages that the call at `place` goes on to by itself, other than by sending. -/
inductive Turns (call : Call) (place : Nat) : Step → Stage → Prop
  | unsent (hstage : call.stage = .registered) (cause : SystemFault) :
    Turns call place (.transmit place (some cause)) (.leaving (.system cause))
  | take (hstage : call.stage = .waiting) {datagram response : Bytes}
      (hchannel : call.channel = .filled datagram)
      (hresponse : Datagram.withId call.ownId datagram = .ok response) :
    Turns call place (.take place) (.returned response)
  | fumble (hstage : call.stage = .waiting) {datagram : Bytes} {fault : Fault}
      (hchannel : call.channel = .filled datagram)
      (hfault : Datagram.withId call.ownId datagram = .error fault) :
    Turns call place (.take place) (.failed fault)
  | stop (hstage : call.stage = .waiting) (hchannel : call.channel = .closed) :
    Turns call place (.take place) (.leaving .clientStopped)
  | expire (hstage : call.stage = .waiting) (hchannel : call.channel = .awaiting)
      (server : String) (milliseconds : Nat) :
    Turns call place (.expire place) (.leaving (.noAnswer server milliseconds))

end Call

namespace Client

/-! ## The rules -/

inductive StepsTo (client : Client) : Step → Client → Prop
  | refuse (query : Bytes) (ownId wireId : UInt16) {fault : Fault}
      (hfault : fault ≠ .clientStopped) :
    StepsTo client (.register query wireId)
      (client.addCall ⟨query, ownId, wireId, .failed fault, .awaiting⟩)
  | register {query : Bytes} {ownId wireId : UInt16} (hid : Datagram.id query = .ok ownId)
      (hfree : client.pending.lookup wireId = none) :
    StepsTo client (.register query wireId)
      { client.addCall ⟨query, ownId, wireId, .registered, .awaiting⟩ with
        pending := client.pending ++ [(wireId, client.calls.length)] }
  | send {place : Nat} {call : Call} (hcall : client.calls[place]? = some call)
      (hstage : call.stage = .registered) :
    StepsTo client (.transmit place none)
      { client.setStage place .waiting with wire := client.wire ++ [call.datagram] }
  | turn {step : Step} {place : Nat} {call : Call} {stage : Stage}
      (hcall : client.calls[place]? = some call) (hturn : call.Turns place step stage) :
    StepsTo client step (client.setStage place stage)
  | drop (datagram : Bytes) : StepsTo client (.arrive datagram) client
  | route {datagram : Bytes} {id : UInt16} {place : Nat} (hfree : client.held = none)
      (hresponse : Datagram.isResponse datagram = true) (hid : Datagram.id datagram = .ok id)
      (hplace : client.pending.lookup id = some place) :
    StepsTo client (.arrive datagram)
      { client.removeId id with held := some (place, datagram) }
  | handOver {place : Nat} {datagram : Bytes} (hheld : client.held = some (place, datagram)) :
    StepsTo client .handOver
      ({ client with held := none }.changeCall place (Call.receive datagram))
  | leave {place : Nat} {call : Call} {fault : Fault}
      (hcall : client.calls[place]? = some call) (hstage : call.stage = .leaving fault)
      (hgone : client.pending.lookup call.wireId = none) :
    StepsTo client (.leave place)
      ((client.removeId call.wireId).setStage place (.failed fault))
  | evict {place holder : Nat} {call : Call} {fault : Fault}
      (hcall : client.calls[place]? = some call) (hstage : call.stage = .leaving fault)
      (hholder : client.pending.lookup call.wireId = some holder) :
    StepsTo client (.leave place)
      (((client.removeId call.wireId).setStage place (.failed fault)).changeCall holder
        Call.abandon)

private theorem stepsTo_of_register {client next : Client} {query : Bytes} {wireId : UInt16}
    (h : client.register query wireId = some next) :
    client.StepsTo (.register query wireId) next := by
  unfold register at h
  cases hid : Datagram.id query with
  | error fault =>
      rw [hid] at h
      obtain rfl := Option.some.inj h
      refine .refuse query 0 wireId ?_
      rintro rfl
      -- only a query without an ID has none
      match query with
      | [] => cases hid
      | [_] => cases hid
      | _ :: _ :: _ => cases hid
  | ok ownId =>
      rw [hid] at h
      dsimp only at h
      split at h
      · obtain rfl := Option.some.inj h
        exact .refuse query ownId wireId (by simp)
      · split at h
        · cases h
        · rename_i hfree
          obtain rfl := Option.some.inj h
          refine .register hid ?_
          rwa [isRegistered, Bool.not_eq_true, Option.isSome_eq_false_iff,
            Option.isNone_iff_eq_none] at hfree

private theorem stepsTo_of_arrive {client next : Client} {datagram : Bytes}
    (h : client.arrive datagram = some next) : client.StepsTo (.arrive datagram) next := by
  unfold arrive at h
  split at h
  · cases h
  · rename_i hheld
    split at h
    · obtain rfl := Option.some.inj h
      exact .drop datagram
    · rename_i hresponse
      split at h
      · obtain rfl := Option.some.inj h
        exact .drop datagram
      · rename_i id hid
        split at h
        · obtain rfl := Option.some.inj h
          exact .drop datagram
        · rename_i place hplace
          obtain rfl := Option.some.inj h
          exact .route (by simpa using hheld) (by simpa using hresponse) hid hplace

private theorem stepsTo_of_leave {client next : Client} {place : Nat}
    (h : client.leave place = some next) : client.StepsTo (.leave place) next := by
  unfold leave at h
  split at h
  · rename_i call hcall
    split at h
    · rename_i fault hstage
      dsimp only at h
      split at h
      · rename_i holder hholder
        obtain rfl := Option.some.inj h
        exact .evict hcall hstage hholder
      · rename_i hgone
        obtain rfl := Option.some.inj h
        exact .leave hcall hstage hgone
    · cases h
  · cases h

theorem stepsTo_of_step {client next : Client} {step : Step} (h : client.step step = some next) :
    client.StepsTo step next := by
  cases step with
  | register query wireId => exact stepsTo_of_register h
  | transmit place refused =>
      change client.transmit place refused = some next at h
      unfold transmit at h
      split at h
      · rename_i call hcall
        split at h
        · rename_i hstage
          obtain rfl := Option.some.inj h
          exact .send hcall hstage
        · rename_i cause hstage
          obtain rfl := Option.some.inj h
          exact .turn hcall (.unsent hstage cause)
        · cases h
      · cases h
  | arrive datagram => exact stepsTo_of_arrive h
  | handOver =>
      change client.handOver = some next at h
      unfold handOver at h
      split at h
      · cases h
      · rename_i place datagram hheld
        obtain rfl := Option.some.inj h
        exact .handOver hheld
  | take place =>
      change client.take place = some next at h
      unfold take at h
      split at h
      · rename_i call hcall
        split at h
        · rename_i datagram hstage hchannel
          split at h
          · rename_i response hresponse
            obtain rfl := Option.some.inj h
            exact .turn hcall (.take hstage hchannel hresponse)
          · rename_i fault hfault
            obtain rfl := Option.some.inj h
            exact .turn hcall (.fumble hstage hchannel hfault)
        · rename_i hstage hchannel
          obtain rfl := Option.some.inj h
          exact .turn hcall (.stop hstage hchannel)
        · cases h
      · cases h
  | expire place =>
      change client.expire place = some next at h
      unfold expire at h
      split at h
      · rename_i call hcall
        split at h
        · rename_i hstage hchannel
          obtain rfl := Option.some.inj h
          exact .turn hcall (.expire hstage hchannel _ _)
        · cases h
      · cases h
  | leave place => exact stepsTo_of_leave h

/-! ## What the changes do to the parts of a client -/

theorem getElem?_changeCall_self {client : Client} {place : Nat} {call : Call}
    (change : Call → Call) (hcall : client.calls[place]? = some call) :
    (client.changeCall place change).calls[place]? = some (change call) := by
  rw [changeCall, List.getElem?_modify_eq, hcall]
  rfl

theorem getElem?_changeCall_of_ne {client : Client} {place other : Nat} (change : Call → Call)
    (hother : place ≠ other) :
    (client.changeCall place change).calls[other]? = client.calls[other]? :=
  List.getElem?_modify_ne change client.calls hother

theorem exists_of_changeCall {client : Client} {place other : Nat} {now : Call}
    {change : Call → Call} (hnow : (client.changeCall place change).calls[other]? = some now) :
    ∃ old, client.calls[other]? = some old ∧
      (place = other ∧ now = change old ∨ place ≠ other ∧ now = old) := by
  by_cases hother : place = other
  · subst hother
    rw [changeCall, List.getElem?_modify_eq] at hnow
    obtain ⟨old, hold, hchange⟩ := Option.map_eq_some_iff.mp hnow
    exact ⟨old, hold, .inl ⟨rfl, hchange.symm⟩⟩
  · rw [getElem?_changeCall_of_ne change hother] at hnow
    exact ⟨now, hnow, .inr ⟨hother, rfl⟩⟩

/-- After a change to one call, each call is the changed one or as it was. -/
theorem changeCall_cases {client : Client} {place other : Nat} {call now : Call}
    {change : Call → Call} (hcall : client.calls[place]? = some call)
    (hnow : (client.changeCall place change).calls[other]? = some now) :
    place = other ∧ now = change call ∨ place ≠ other ∧ client.calls[other]? = some now := by
  obtain ⟨old, hold, ⟨rfl, rfl⟩ | ⟨hother, rfl⟩⟩ := exists_of_changeCall hnow
  · obtain rfl := Option.some.inj (hold.symm.trans hcall)
    exact .inl ⟨rfl, rfl⟩
  · exact .inr ⟨hother, hold⟩

theorem getElem?_addCall_eq_some {client : Client} {added call : Call} {place : Nat} :
    (client.addCall added).calls[place]? = some call ↔
      client.calls[place]? = some call ∨ place = client.calls.length ∧ call = added := by
  have hadded : (client.addCall added).calls = client.calls ++ [added] := rfl
  rw [hadded]
  rcases Nat.lt_trichotomy place client.calls.length with hbefore | hplace | hbehind
  · rw [List.getElem?_append_left hbefore]
    simp [Nat.ne_of_lt hbefore]
  · subst hplace
    simp [eq_comm]
  · rw [List.getElem?_eq_none (by simp; omega), List.getElem?_eq_none (by omega)]
    simp [Nat.ne_of_gt hbehind]

theorem mem_pending_removeId (client : Client) (id : UInt16) (entry : UInt16 × Nat) :
    entry ∈ (client.removeId id).pending ↔ entry ∈ client.pending ∧ entry.1 ≠ id := by
  simp [removeId]

theorem mem_pending_of_lookup {client : Client} {id : UInt16} {place : Nat}
    (h : client.pending.lookup id = some place) : (id, place) ∈ client.pending := by
  obtain ⟨front, back, hpending, _⟩ := List.lookup_eq_some_iff.mp h
  rw [hpending]
  exact List.mem_append_right _ List.mem_cons_self

theorem ne_of_lookup_eq_none {client : Client} {id : UInt16} {entry : UInt16 × Nat}
    (h : client.pending.lookup id = none) (hentry : entry ∈ client.pending) : entry.1 ≠ id := by
  have hdiffers := List.lookup_eq_none_iff.mp h entry hentry
  intro heq
  simp [heq] at hdiffers

/-! ## Histories -/

/-- Every step of the history meets the condition when it is taken. -/
def Along (condition : Client → Step → Prop) (client : Client) : List Step → Prop
  | [] => True
  | step :: rest => condition client step ∧
      ∀ next ∈ client.step step, next.Along condition rest

instance decidableAlong (condition : Client → Step → Prop)
    [∀ client step, Decidable (condition client step)] :
    ∀ (client : Client) (steps : List Step), Decidable (client.Along condition steps)
  | _, [] => inferInstanceAs (Decidable True)
  | client, step :: rest =>
      have : ∀ next : Client, Decidable (next.Along condition rest) :=
        fun next => decidableAlong condition next rest
      inferInstanceAs (Decidable (condition client step ∧
        ∀ next ∈ client.step step, next.Along condition rest))

theorem along_of_forall {condition : Client → Step → Prop}
    (h : ∀ client step, condition client step) (client : Client) (steps : List Step) :
    client.Along condition steps := by
  induction steps generalizing client with
  | nil => trivial
  | cons step rest ih => exact ⟨h client step, fun next _ => ih next⟩

theorem run_induction {motive : Client → Prop} {condition : Client → Step → Prop}
    (hstep : ∀ client step next, condition client step → client.StepsTo step next →
      motive client → motive next)
    {client last : Client} {steps : List Step} (hstart : motive client)
    (halong : client.Along condition steps) (hrun : client.run steps = some last) :
    motive last := by
  induction steps generalizing client with
  | nil =>
      obtain rfl := Option.some.inj hrun
      exact hstart
  | cons step rest ih =>
      obtain ⟨next, hnext, hrest⟩ := Option.bind_eq_some_iff.mp hrun
      obtain ⟨hcondition, hafter⟩ := halong
      have hmotive := hstep client step next hcondition (stepsTo_of_step hnext) hstart
      exact ih hmotive (hafter next hnext) hrest

end Client

end DnsForwarder.Udp
