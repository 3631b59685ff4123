import DnsForwarder.Proofs.Udp.Answer

/-!
# What happens to the calls

A history lists the steps, but not what they came to: an arriving datagram may be dropped, and
a call that is to begin may be refused.  `Client.log` lists what did happen to the calls, in the
order in which it happened.  Each occurrence is read off a step and the clients before and after
it, so the log is no part of the client.

`Ledger` relates the log to the register and to the datagram under way: what was routed is what
was handed over and the one that still is to be, and no call is routed to twice.
-/

namespace DnsForwarder.Udp

inductive Occurrence
  /-- A call is registered under the ID that its query is sent with. -/
  | registered (place : Nat) (query : Bytes) (wireId : UInt16)
  | sent (place : Nat) (datagram : Bytes)
  /-- An arriving datagram is taken for the answer to a call. -/
  | routed (place : Nat) (datagram : Bytes)
  | handed (place : Nat) (datagram : Bytes)
  | returned (place : Nat) (response : Bytes)
deriving DecidableEq, Repr

namespace Occurrence

def sending? : Occurrence → Option Bytes
  | .sent _ datagram => some datagram
  | _ => none

def routing? : Occurrence → Option (Nat × Bytes)
  | .routed place datagram => some (place, datagram)
  | _ => none

def handing? : Occurrence → Option (Nat × Bytes)
  | .handed place datagram => some (place, datagram)
  | _ => none

end Occurrence

/-- The datagrams that are sent, in order. -/
def sendings (log : List Occurrence) : List Bytes := log.filterMap Occurrence.sending?

/-- The datagrams that are taken for the answer to a call, with the call. -/
def routings (log : List Occurrence) : List (Nat × Bytes) := log.filterMap Occurrence.routing?

/-- The datagrams that are handed over, with the call. -/
def handings (log : List Occurrence) : List (Nat × Bytes) := log.filterMap Occurrence.handing?

private theorem filterMap_snoc {α : Type} (select : Occurrence → Option α)
    (log : List Occurrence) (occurred : Option Occurrence) :
    (log ++ occurred.toList).filterMap select =
      log.filterMap select ++ (occurred.bind select).toList := by
  rw [List.filterMap_append]
  cases occurred with
  | none => rfl
  | some occurrence =>
      change _ ++ List.filterMap select [occurrence] = _
      rw [List.filterMap_cons]
      cases hselect : select occurrence <;> simp [hselect]

section Snoc

variable (log : List Occurrence) (occurred : Option Occurrence)

theorem sendings_snoc : sendings (log ++ occurred.toList) =
    sendings log ++ (occurred.bind Occurrence.sending?).toList :=
  filterMap_snoc ..

theorem routings_snoc : routings (log ++ occurred.toList) =
    routings log ++ (occurred.bind Occurrence.routing?).toList :=
  filterMap_snoc ..

theorem handings_snoc : handings (log ++ occurred.toList) =
    handings log ++ (occurred.bind Occurrence.handing?).toList :=
  filterMap_snoc ..

end Snoc

def Step.arrival? : Step → Option Bytes
  | .arrive datagram => some datagram
  | _ => none

/-- What arrives in a history. -/
def arrivals (steps : List Step) : List Bytes := steps.filterMap Step.arrival?

namespace Client

/-- What a step that leads to `next` adds to the log.  A call that takes what came for it fails
if that cannot be given its ID. -/
def occurrence (client next : Client) : Step → Option Occurrence
  | .register query wireId =>
    if client.pending.length < next.pending.length then
      some (.registered client.calls.length query wireId)
    else none
  | .transmit place none => (client.calls[place]?).map fun call => .sent place call.datagram
  | .arrive datagram => next.held.map fun (place, _) => .routed place datagram
  | .handOver => client.held.map fun (place, datagram) => .handed place datagram
  | .take place =>
    match next.result? place with
    | some (.ok response) => some (.returned place response)
    | _ => none
  | .transmit _ (some _) | .expire _ | .leave _ => none

/-- What happens in a history, as far as it is possible. -/
def log (client : Client) : List Step → List Occurrence
  | [] => []
  | step :: rest =>
    match client.step step with
    | none => []
    | some next => (client.occurrence next step).toList ++ next.log rest

variable {client next : Client} {log : List Occurrence} {place : Nat} {call : Call}
  {datagram : Bytes}

/-- What holds of the log and the client, and is kept by every step with what it adds to the
log, holds in the end. -/
theorem log_induction {motive : List Occurrence → Client → Prop}
    (hstep : ∀ log client step next, client.step step = some next → client.StepsTo step next →
      motive log client → motive (log ++ (client.occurrence next step).toList) next)
    {last : Client} {steps : List Step} (hstart : motive log client)
    (hrun : client.run steps = some last) : motive (log ++ client.log steps) last := by
  -- on the steps, with any log before them
  induction steps generalizing log client with
  | nil =>
      obtain rfl := Option.some.inj hrun
      rw [Client.log, List.append_nil]
      exact hstart
  | cons step rest ih =>
      obtain ⟨next, hnext, hrest⟩ := Option.bind_eq_some_iff.mp hrun
      have hafter := hstep log client step next hnext (stepsTo_of_step hnext) hstart
      have hlog : client.log (step :: rest) =
          (client.occurrence next step).toList ++ next.log rest := by
        rw [Client.log, hnext]
      rw [hlog, ← List.append_assoc]
      exact ih hafter hrest

/-- Nothing arrives while a datagram is to be handed over. -/
theorem held_eq_none_of_arrive (h : client.step (.arrive datagram) = some next) :
    client.held = none := by
  change client.arrive datagram = some next at h
  unfold arrive at h
  split at h
  · cases h
  · rename_i hheld
    simpa using hheld

/-! ## What each step adds to the log -/

theorem result?_setStage (hcall : client.calls[place]? = some call) (stage : Stage) :
    (client.setStage place stage).result? place =
      match stage with
      | .returned response => some (.ok response)
      | .failed fault => some (.error fault)
      | _ => none := by
  have hnow : (client.setStage place stage).calls[place]? = some { call with stage } :=
    getElem?_changeCall_self _ hcall
  rw [result?, hnow]
  cases stage <;> rfl

theorem occurrence_turn {step : Step} {stage : Stage} (hcall : client.calls[place]? = some call)
    (hturn : call.Turns place step stage) :
    client.occurrence (client.setStage place stage) step =
      match stage with
      | .returned response => some (.returned place response)
      | _ => none := by
  cases hturn with
  | unsent | expire => rfl
  | take | fumble | stop =>
      rw [occurrence, result?_setStage hcall]

theorem occurrence_send (hcall : client.calls[place]? = some call) :
    client.occurrence next (.transmit place none) = some (.sent place call.datagram) := by
  rw [occurrence, hcall]
  rfl

theorem occurrence_refuse (query : Bytes) (wireId : UInt16) :
    client.occurrence (client.addCall call) (.register query wireId) = none :=
  if_neg (Nat.lt_irrefl _)

theorem occurrence_register (query : Bytes) (wireId : UInt16) (entry : UInt16 × Nat) :
    client.occurrence { client.addCall call with pending := client.pending ++ [entry] }
      (.register query wireId) = some (.registered client.calls.length query wireId) :=
  if_pos (by simp)

theorem occurrence_drop (hheld : client.held = none) :
    client.occurrence client (.arrive datagram) = none := by
  rw [occurrence, hheld]
  rfl

theorem occurrence_handOver (hheld : client.held = some (place, datagram)) :
    client.occurrence next .handOver = some (.handed place datagram) := by
  rw [occurrence, hheld]
  rfl

/-! ## What was sent, and what was handed over -/

/-- What is routed arrives, each time anew. -/
theorem routings_sublist_arrivals (client : Client) (steps : List Step) :
    ((routings (client.log steps)).map Prod.snd).Sublist (arrivals steps) := by
  induction steps generalizing client with
  | nil => exact List.Sublist.refl _
  | cons step rest ih =>
      rw [Client.log]
      split
      · exact List.nil_sublist _
      · rename_i next _
        have hstep : ((routings (client.occurrence next step).toList).map Prod.snd).Sublist
            (arrivals [step]) := by
          cases step with
          | arrive datagram =>
              rw [occurrence]
              cases next.held with
              | none => exact List.nil_sublist _
              | some => exact List.Sublist.refl _
          | register | take =>
              rw [occurrence]
              split <;> exact List.nil_sublist _
          | transmit place refused =>
              cases refused with
              | none =>
                  rw [occurrence]
                  cases client.calls[place]? <;> exact List.nil_sublist _
              | some => exact List.nil_sublist _
          | handOver =>
              rw [occurrence]
              cases client.held <;> exact List.nil_sublist _
          | expire | leave => exact List.nil_sublist _
        have harrivals : arrivals (step :: rest) = arrivals [step] ++ arrivals rest :=
          List.filterMap_append (l := [step])
        rw [routings, List.filterMap_append, List.map_append, harrivals]
        exact hstep.append (ih next)

structure Ledger (log : List Occurrence) (client : Client) : Prop where
  sent : client.wire = sendings log
  handed : routings log = handings log ++ client.held.toList
  once : ((routings log).map Prod.fst).Nodup
  /-- A registered call was not routed to. -/
  fresh : ∀ id place, (id, place) ∈ client.pending → place ∉ (routings log).map Prod.fst
  known : ∀ place ∈ (routings log).map Prod.fst, place < client.calls.length

theorem Ledger.idle (server : SocketAddress) (timeoutMilliseconds : Nat) :
    Ledger [] (Client.idle server timeoutMilliseconds) := by
  constructor <;> simp [Client.idle, sendings, routings, handings]

theorem StepsTo.length_le {step : Step} (hstep : client.StepsTo step next) :
    client.calls.length ≤ next.calls.length := by
  by_contra hshort
  obtain ⟨call, hcall⟩ : ∃ call, client.calls[next.calls.length]? = some call :=
    ⟨_, List.getElem?_eq_getElem (by omega)⟩
  obtain ⟨now, hnow, _⟩ := hstep.follows hcall
  simp at hnow

/-- The ledger goes on when what happens is what the client shows, and a call that is routed to
was registered and is not any more. -/
theorem Ledger.extend {step : Step} {occurred : Option Occurrence} (h : Ledger log client)
    (hstep : client.StepsTo step next)
    (hsent : next.wire = client.wire ++ (occurred.bind Occurrence.sending?).toList)
    (hheld : client.held.toList ++ (occurred.bind Occurrence.routing?).toList =
      (occurred.bind Occurrence.handing?).toList ++ next.held.toList)
    (hrouted : ∀ routing ∈ occurred.bind Occurrence.routing?,
      (∃ id, (id, routing.1) ∈ client.pending) ∧ routing.1 < client.calls.length ∧
      ∀ id, (id, routing.1) ∉ next.pending) :
    Ledger (log ++ occurred.toList) next := by
  have hplaces : ∀ {place}, place ∈ (routings (log ++ occurred.toList)).map Prod.fst →
      place ∈ (routings log).map Prod.fst ∨
      ∃ routing ∈ occurred.bind Occurrence.routing?, routing.1 = place := by
    intro place hplace
    rw [routings_snoc, List.map_append, List.mem_append] at hplace
    refine hplace.imp_right fun hnew => ?_
    simpa using hnew
  refine ⟨?_, ?_, ?_, ?_, ?_⟩
  · rw [hsent, h.sent, sendings_snoc]
  · calc
      routings (log ++ occurred.toList)
        = handings log ++ (client.held.toList ++ (occurred.bind Occurrence.routing?).toList) := by
          rw [routings_snoc, h.handed, List.append_assoc]
      _ = handings log ++ ((occurred.bind Occurrence.handing?).toList ++ next.held.toList) := by
          rw [hheld]
      _ = handings (log ++ occurred.toList) ++ next.held.toList := by
          rw [handings_snoc, List.append_assoc]
  · rw [routings_snoc, List.map_append, List.nodup_append]
    refine ⟨h.once, ?_, ?_⟩
    · cases occurred.bind Occurrence.routing? <;> simp
    · rintro place hold _ hnew rfl
      obtain ⟨routing, hrouting, rfl⟩ := List.mem_map.mp hnew
      obtain ⟨⟨id, hlisted⟩, _⟩ := hrouted routing (Option.mem_toList.mp hrouting)
      exact h.fresh id routing.1 hlisted hold
  · intro id place hlisted hplace
    rcases hplaces hplace with hold | ⟨routing, hrouting, rfl⟩
    · rcases hstep.pending_cases hlisted with hbefore | rfl
      · exact h.fresh id place hbefore hold
      · exact absurd (h.known _ hold) (Nat.lt_irrefl _)
    · obtain ⟨_, _, hgone⟩ := hrouted routing hrouting
      exact hgone id hlisted
  · intro place hplace
    have hbefore : place < client.calls.length := by
      rcases hplaces hplace with hold | ⟨routing, hrouting, rfl⟩
      · exact h.known place hold
      · exact (hrouted routing hrouting).2.1
    exact Nat.lt_of_lt_of_le hbefore hstep.length_le

theorem Ledger.step {step : Step} (h : Ledger log client) (horderly : client.Orderly)
    (hnext : client.step step = some next) :
    Ledger (log ++ (client.occurrence next step).toList) next := by
  have hstep := stepsTo_of_step hnext
  have hquiet : client.occurrence next step = none → next.wire = client.wire →
      next.held = client.held → Ledger (log ++ (client.occurrence next step).toList) next := by
    intro hnone hwire hheld
    rw [hnone]
    exact h.extend hstep (by simp [hwire]) (by simp [hheld]) nofun
  cases hstep with
  | refuse => exact hquiet (occurrence_refuse ..) rfl rfl
  | leave | evict => exact hquiet rfl rfl rfl
  | drop => exact hquiet (occurrence_drop (held_eq_none_of_arrive hnext)) rfl rfl
  | register =>
      rw [occurrence_register]
      exact h.extend (stepsTo_of_step hnext) (List.append_nil _).symm (List.append_nil _) nofun
  | send hcall =>
      rw [occurrence_send hcall]
      exact h.extend (stepsTo_of_step hnext) rfl (List.append_nil _) nofun
  | turn hcall hturn =>
      have hlog := occurrence_turn hcall hturn
      split at hlog
      · rw [hlog]
        exact h.extend (stepsTo_of_step hnext) (List.append_nil _).symm (List.append_nil _) nofun
      · exact hquiet hlog rfl rfl
  | @route datagram id place hfree _ _ hplace =>
      have hlisted := mem_pending_of_lookup hplace
      obtain ⟨call, hcall, hwire, _⟩ := horderly.holders id place hlisted
      refine h.extend (stepsTo_of_step hnext) (List.append_nil _).symm ?_ ?_
      · rw [hfree]
        rfl
      · -- the entry that goes was the only one of its call
        intro routing hrouting
        obtain rfl := Option.some.inj hrouting
        refine ⟨⟨id, hlisted⟩, (List.getElem?_eq_some_iff.mp hcall).1, ?_⟩
        intro other hleft
        obtain ⟨hkept, hother⟩ := (mem_pending_removeId client id _).mp hleft
        obtain ⟨hsame, _⟩ := horderly.wireId_eq hkept hcall
        exact hother (hsame.symm.trans hwire)
  | handOver hheld =>
      rw [occurrence_handOver hheld]
      refine h.extend (stepsTo_of_step hnext) (List.append_nil _).symm ?_ nofun
      rw [hheld]
      rfl

end Client

end DnsForwarder.Udp
