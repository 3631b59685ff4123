import DnsForwarder.Proofs.Message.Reading
import DnsForwarder.Proofs.Udp.Delivery

/-!
# Whose question a response answers

Responses are told apart by their ID alone, and an ID is free again as soon as its call is out
of the register.  So from a server that answers with the ID and the question section of what
it was sent, a call gets an answer to a query that was sent with its ID: its own one, or the
one of an earlier call, whose late or repeated answer finds the ID in use again.  If no earlier
call has sent its query with the ID, the answer is to the query of the call itself.

`Traced` is the invariant.  What it says of the register is that no call behind a registered
one has sent a query with the same ID.
-/

namespace DnsForwarder

namespace Datagram

open Wire

/-- The question section.  The ID is read as zero, for it changes on the way, and a name may
point back into it. -/
def questions? (data : Bytes) : Option (List Question) := do
  let message := 0 :: 0 :: data.drop 2
  let (count, _) ← (Cursor.into message 4).word
  let (questions, _) ← readMany (Question.read message) count.toNat (.into message 12)
  return questions

/-- The questions are those of the message, if that is read without its ID. -/
theorem questions?_of_decode? {data : Bytes} {message : Message}
    (h : Message.decode? (0 :: 0 :: data.drop 2) = some message) :
    questions? data = some message.questions := by
  have hlength := Message.headerLength_le_of_decode? h
  unfold questions?
  generalize data.drop 2 = rest at h hlength
  match rest, hlength with
  | high :: low :: q₁ :: q₂ :: _ :: _ :: _ :: _ :: _ :: _ :: sections, _ =>
      obtain ⟨header, _, h⟩ := Option.bind_eq_some_iff.mp h
      obtain ⟨⟨_, behind⟩, hquestionCount, h⟩ := Option.bind_eq_some_iff.mp h
      obtain ⟨⟨_, behind⟩, hanswerCount, h⟩ := Option.bind_eq_some_iff.mp h
      obtain ⟨⟨_, behind⟩, hauthorityCount, h⟩ := Option.bind_eq_some_iff.mp h
      obtain ⟨⟨_, behind⟩, hadditionalCount, h⟩ := Option.bind_eq_some_iff.mp h
      cases hquestionCount
      cases hanswerCount
      cases hauthorityCount
      cases hadditionalCount
      obtain ⟨⟨questions, behind⟩, hquestions, h⟩ := Option.bind_eq_some_iff.mp h
      obtain ⟨⟨answers, behind⟩, _, h⟩ := Option.bind_eq_some_iff.mp h
      obtain ⟨⟨authorities, behind⟩, _, h⟩ := Option.bind_eq_some_iff.mp h
      obtain ⟨⟨additionals, behind⟩, _, h⟩ := Option.bind_eq_some_iff.mp h
      obtain ⟨⟨others, edns⟩, _, h⟩ := Option.bind_eq_some_iff.mp h
      cases h
      refine Option.bind_eq_some_iff.mpr ⟨(word16 q₁ q₂, _), rfl, ?_⟩
      exact Option.bind_eq_some_iff.mpr ⟨(questions, _), hquestions, rfl⟩

theorem questions?_withId {id : UInt16} {data out : Bytes} (h : withId id data = .ok out) :
    questions? out = questions? data := by
  match data with
  | [] => cases h
  | [_] => cases h
  | _ :: _ :: rest =>
      obtain rfl := Except.ok.inj h
      rfl

/-- Whether a response has the ID and the question section of the query. -/
def Answers (query response : Bytes) : Prop :=
  Datagram.id response = Datagram.id query ∧ questions? response = questions? query

end Datagram

namespace Udp

namespace Client

variable {client next : Client} {place : Nat} {call now : Call} {datagram : Bytes}

/-! ## What stays of a call -/

/-- What is left of the call at `place` after a step. -/
structure Follows (client : Client) (place : Nat) (call now : Call) : Prop where
  query : now.query = call.query
  ownId : now.ownId = call.ownId
  wireId : now.wireId = call.wireId
  failed : ∀ fault, call.stage = .failed fault → ∃ fault, now.stage = .failed fault
  filled : ∀ datagram, now.channel = .filled datagram →
    call.channel = .filled datagram ∨ client.held = some (place, datagram)

theorem Follows.refl (client : Client) (place : Nat) (call : Call) :
    client.Follows place call call :=
  ⟨rfl, rfl, rfl, fun fault hfailed => ⟨fault, hfailed⟩, fun _ hfilled => .inl hfilled⟩

theorem follows_setStage (stage : Stage) (hopen : ∀ fault, call.stage ≠ .failed fault) :
    client.Follows place call { call with stage } :=
  ⟨rfl, rfl, rfl, fun fault hfailed => absurd hfailed (hopen fault), fun _ hfilled => .inl hfilled⟩

theorem follows_receive (hheld : client.held = some (place, datagram)) :
    client.Follows place call (call.receive datagram) := by
  refine ⟨by simp, by simp, by simp, ?_, ?_⟩
  · intro fault hfailed
    exact ⟨fault, (Call.receive_stage datagram call).trans hfailed⟩
  · intro other hfilled
    unfold Call.receive at hfilled
    split at hfilled
    · obtain rfl := Channel.filled.inj hfilled
      exact .inr hheld
    · exact .inl hfilled

theorem Follows.abandon (h : client.Follows place call now) :
    client.Follows place call now.abandon := by
  refine ⟨by simp [h.query], by simp [h.ownId], by simp [h.wireId], ?_, ?_⟩
  · intro fault hfailed
    rw [Call.abandon_stage]
    exact h.failed fault hfailed
  · intro other hfilled
    rcases Call.abandon_cases now with ⟨_, habandon⟩ | ⟨_, habandon⟩
    · rw [habandon] at hfilled
      cases hfilled
    · rw [habandon] at hfilled
      exact h.filled other hfilled

/-- After one call was changed, each call follows what it was if the changed one does. -/
theorem exists_follows_changeCall {client start : Client} {acting other : Nat} {call old : Call}
    (change : Call → Call) (hacting : client.calls[acting]? = some old)
    (hold : start.Follows acting old (change old)) (hcall : client.calls[other]? = some call) :
    ∃ now, (client.changeCall acting change).calls[other]? = some now ∧
      start.Follows other call now := by
  by_cases heq : acting = other
  · subst heq
    obtain rfl := Option.some.inj (hacting.symm.trans hcall)
    exact ⟨_, getElem?_changeCall_self change hcall, hold⟩
  · exact ⟨call, (getElem?_changeCall_of_ne change heq).trans hcall, .refl start other call⟩

theorem StepsTo.follows {step : Step} (hstep : client.StepsTo step next)
    (hcall : client.calls[place]? = some call) :
    ∃ now, next.calls[place]? = some now ∧ client.Follows place call now := by
  cases hstep with
  | refuse | register => exact ⟨call, getElem?_addCall_eq_some.mpr (.inl hcall), .refl ..⟩
  | send hacting hstage =>
      exact exists_follows_changeCall _ hacting (follows_setStage _ (by simp [hstage])) hcall
  | turn hacting hturn =>
      exact exists_follows_changeCall _ hacting (follows_setStage _ hturn.not_failed) hcall
  | drop | route => exact ⟨call, hcall, .refl ..⟩
  | @handOver receiver held hheld =>
      by_cases heq : receiver = place
      · subst heq
        exact exists_follows_changeCall _ hcall (follows_receive hheld) hcall
      · exact ⟨call, (getElem?_changeCall_of_ne _ heq).trans hcall, .refl ..⟩
  | leave hacting hstage =>
      exact exists_follows_changeCall _ hacting (follows_setStage _ (by simp [hstage])) hcall
  | @evict leaver holder acting fault hacting hstage =>
      have hfailed : client.Follows leaver acting { acting with stage := .failed fault } :=
        follows_setStage _ (by simp [hstage])
      obtain ⟨left, hleft, hfollows⟩ := exists_follows_changeCall
        (fun call => { call with stage := .failed fault }) hacting hfailed hcall
      by_cases heq : holder = place
      · subst heq
        exact ⟨_, getElem?_changeCall_self _ hleft, hfollows.abandon⟩
      · exact ⟨left, (getElem?_changeCall_of_ne _ heq).trans hleft, hfollows⟩

/-- A call that begins either fails at once or has an ID of its own. -/
theorem StepsTo.begins {step : Step} (hstep : client.StepsTo step next)
    (hnow : next.calls[place]? = some now) (hnew : client.calls[place]? = none) :
    now.channel = .awaiting ∧
      ((∃ fault, now.stage = .failed fault) ∨ Datagram.id now.query = .ok now.ownId) := by
  have hnone : ∀ {call}, client.calls[place]? ≠ some call := by simp [hnew]
  cases hstep with
  | refuse =>
      rcases getElem?_addCall_eq_some.mp hnow with hold | ⟨_, rfl⟩
      · exact absurd hold hnone
      · exact ⟨rfl, .inl ⟨_, rfl⟩⟩
  | register hid =>
      rcases getElem?_addCall_eq_some.mp hnow with hold | ⟨_, rfl⟩
      · exact absurd hold hnone
      · exact ⟨rfl, .inr hid⟩
  | drop | route => exact absurd hnow hnone
  | send | turn | handOver | leave =>
      obtain ⟨old, hold, _⟩ := exists_of_changeCall hnow
      exact absurd hold hnone
  | evict =>
      obtain ⟨left, hleft, _⟩ := exists_of_changeCall hnow
      obtain ⟨old, hold, _⟩ := exists_of_changeCall hleft
      exact absurd hold hnone

theorem StepsTo.follows_or_begins {step : Step} (hstep : client.StepsTo step next)
    (hnow : next.calls[place]? = some now) :
    (∃ call, client.calls[place]? = some call ∧ client.Follows place call now) ∨
      now.channel = .awaiting ∧
        ((∃ fault, now.stage = .failed fault) ∨ Datagram.id now.query = .ok now.ownId) := by
  cases hcall : client.calls[place]? with
  | none => exact .inr (hstep.begins hnow hcall)
  | some call =>
      obtain ⟨other, hother, hfollows⟩ := hstep.follows hcall
      obtain rfl := Option.some.inj (hother.symm.trans hnow)
      exact .inl ⟨call, rfl, hfollows⟩

theorem StepsTo.wire_cases {step : Step} (hstep : client.StepsTo step next) :
    next.wire = client.wire ∨ ∃ (sender : Nat) (call : Call),
      client.calls[sender]? = some call ∧ call.stage = .registered ∧ next.pending = client.pending ∧
      next.wire = client.wire ++ [call.datagram] := by
  cases hstep with
  | send hcall hstage => exact .inr ⟨_, _, hcall, hstage, rfl, rfl⟩
  | _ => exact .inl rfl

theorem StepsTo.pending_cases {step : Step} (hstep : client.StepsTo step next) {id : UInt16}
    (hplace : (id, place) ∈ next.pending) :
    (id, place) ∈ client.pending ∨ place = client.calls.length := by
  cases hstep with
  | refuse | send | turn | drop | handOver => exact .inl hplace
  | register =>
      rcases List.mem_append.mp hplace with hold | hnew
      · exact .inl hold
      · exact .inr (congrArg Prod.snd (List.mem_singleton.mp hnew))
  | route | leave | evict => exact .inl ((mem_pending_removeId client _ _).mp hplace).1

theorem StepsTo.held_cases {step : Step} (hstep : client.StepsTo step next)
    (hheld : next.held = some (place, datagram)) :
    client.held = some (place, datagram) ∨ step = .arrive datagram ∧
      ∃ id, Datagram.id datagram = .ok id ∧ (id, place) ∈ client.pending := by
  cases hstep with
  | route _ _ hid hplace =>
      obtain ⟨rfl, rfl⟩ := Prod.mk.inj (Option.some.inj hheld)
      exact .inr ⟨rfl, _, hid, mem_pending_of_lookup hplace⟩
  | handOver => cases hheld
  | _ => exact .inl hheld

/-! ## Where a datagram comes from -/

/-- The call at `sender` or an earlier one sends its query as this datagram. -/
def SentBy (client : Client) (datagram : Bytes) (bound : Nat) : Prop :=
  ∃ sender call, sender ≤ bound ∧ client.calls[sender]? = some call ∧
    Datagram.withId call.wireId call.query = .ok datagram

-- a server: the datagrams that it may answer another one with
variable {reply : Bytes → Bytes → Prop}

/-- The datagram answers what the call at `place` or an earlier one has sent. -/
def RepliedUpTo (reply : Bytes → Bytes → Prop) (client : Client) (place : Nat)
    (datagram : Bytes) : Prop :=
  ∃ sent ∈ client.wire, client.SentBy sent place ∧ reply sent datagram

structure Traced (reply : Bytes → Bytes → Prop) (client : Client) : Prop where
  read : ∀ (place : Nat) (call : Call), client.calls[place]? = some call →
    (∃ fault, call.stage = .failed fault) ∨ Datagram.id call.query = .ok call.ownId
  sent : ∀ datagram ∈ client.wire, ∃ bound, client.SentBy datagram bound
  /-- What was sent with the ID of a registered call was sent by it or an earlier one. -/
  order : ∀ id place, (id, place) ∈ client.pending → ∀ datagram ∈ client.wire,
    Datagram.id datagram = .ok id → client.SentBy datagram place
  held : ∀ place datagram, client.held = some (place, datagram) →
    client.RepliedUpTo reply place datagram
  filled : ∀ (place : Nat) (call : Call) datagram, client.calls[place]? = some call →
    call.channel = .filled datagram → client.RepliedUpTo reply place datagram

theorem Traced.idle (server : SocketAddress) (timeoutMilliseconds : Nat) :
    (Client.idle server timeoutMilliseconds).Traced reply := by
  constructor <;> simp [Client.idle]

theorem SentBy.step {step : Step} {bound : Nat} (h : client.SentBy datagram bound)
    (hstep : client.StepsTo step next) : next.SentBy datagram bound := by
  obtain ⟨sender, call, hsender, hcall, hdatagram⟩ := h
  obtain ⟨now, hnow, hfollows⟩ := hstep.follows hcall
  refine ⟨sender, now, hsender, hnow, ?_⟩
  rw [hfollows.wireId, hfollows.query]
  exact hdatagram

/-- The sender is one of the calls so far. -/
theorem SentBy.all {bound : Nat} (h : client.SentBy datagram bound) :
    client.SentBy datagram client.calls.length := by
  obtain ⟨sender, call, _, hcall, hdatagram⟩ := h
  obtain ⟨hsender, _⟩ := List.getElem?_eq_some_iff.mp hcall
  exact ⟨sender, call, Nat.le_of_lt hsender, hcall, hdatagram⟩

theorem StepsTo.mem_wire {step : Step} (hstep : client.StepsTo step next)
    (h : datagram ∈ client.wire) : datagram ∈ next.wire := by
  rcases hstep.wire_cases with hwire | ⟨_, _, _, _, _, hwire⟩ <;> rw [hwire]
  · exact h
  · exact List.mem_append_left _ h

theorem RepliedUpTo.step {step : Step} (h : client.RepliedUpTo reply place datagram)
    (hstep : client.StepsTo step next) : next.RepliedUpTo reply place datagram := by
  obtain ⟨sent, hsent, hby, hreplied⟩ := h
  exact ⟨sent, hstep.mem_wire hsent, hby.step hstep, hreplied⟩

theorem datagram_eq_of_withId (h : Datagram.withId call.wireId call.query = .ok datagram) :
    call.datagram = datagram := by
  unfold Call.datagram
  rw [h]

/-- A call sends its query under its ID. -/
theorem Traced.withId_eq (h : client.Traced reply) (hcall : client.calls[place]? = some call)
    (hstage : call.stage = .registered) :
    Datagram.withId call.wireId call.query = .ok call.datagram := by
  rcases h.read place call hcall with ⟨fault, hfailed⟩ | hid
  · rw [hstage] at hfailed
    cases hfailed
  · have hwithId := Datagram.withId_of_id hid call.wireId
    rw [hwithId, datagram_eq_of_withId hwithId]

/-- Whatever arrives is a reply to a query that was sent before, however long ago, and to
which others may have come. -/
def HearsReplies (reply : Bytes → Bytes → Prop) (client : Client) : Step → Prop
  | .arrive datagram => ∃ sent ∈ client.wire, reply sent datagram
  | _ => True

instance (reply : Bytes → Bytes → Prop) [∀ sent datagram, Decidable (reply sent datagram)]
    (client : Client) : (step : Step) → Decidable (client.HearsReplies reply step)
  | .arrive datagram => inferInstanceAs (Decidable (∃ sent ∈ client.wire, reply sent datagram))
  | .register .. | .transmit .. | .handOver | .take _ | .expire _ | .leave _ =>
      inferInstanceAs (Decidable True)

theorem Traced.order_step {step : Step} (h : client.Traced reply) (horderly : client.Orderly)
    (hstep : client.StepsTo step next) {id : UInt16} (hplace : (id, place) ∈ next.pending)
    (hsent : datagram ∈ next.wire) (hid : Datagram.id datagram = .ok id) :
    next.SentBy datagram place := by
  rcases hstep.wire_cases with hwire | ⟨sender, call, hcall, hstage, hpending, hwire⟩
  · rw [hwire] at hsent
    rcases hstep.pending_cases hplace with hold | rfl
    · exact (h.order id place hold datagram hsent hid).step hstep
    · obtain ⟨_, hby⟩ := h.sent datagram hsent
      exact hby.all.step hstep
  · rw [hpending] at hplace
    rw [hwire, List.mem_append, List.mem_singleton] at hsent
    rcases hsent with hold | rfl
    · exact (h.order id place hplace datagram hold hid).step hstep
    · have hdatagram := h.withId_eq hcall hstage
      have hwireId : call.wireId = id := by
        rw [Datagram.id_withId hdatagram] at hid
        exact Except.ok.inj hid
      -- no call behind a registered one was registered under its ID
      have hbefore : sender ≤ place := by
        by_contra hbehind
        obtain ⟨fault, hfailed⟩ :=
          horderly.latest id place hplace sender call (by omega) hcall hwireId
        rw [hstage] at hfailed
        cases hfailed
      exact SentBy.step ⟨sender, call, hbefore, hcall, hdatagram⟩ hstep

theorem Traced.step {step : Step} (h : client.Traced reply) (horderly : client.Orderly)
    (hreply : ∀ sent datagram, reply sent datagram → Datagram.Answers sent datagram)
    (hhears : client.HearsReplies reply step) (hstep : client.StepsTo step next) :
    next.Traced reply := by
  refine ⟨?_, ?_, fun id place hplace datagram => h.order_step horderly hstep hplace, ?_, ?_⟩
  · intro place now hnow
    rcases hstep.follows_or_begins hnow with ⟨call, hcall, hfollows⟩ | ⟨_, hbegins⟩
    · rcases h.read place call hcall with ⟨fault, hfailed⟩ | hid
      · exact .inl (hfollows.failed fault hfailed)
      · rw [hfollows.query, hfollows.ownId]
        exact .inr hid
    · exact hbegins
  · have hkept : ∀ datagram ∈ client.wire, ∃ bound, next.SentBy datagram bound := by
      intro datagram hsent
      obtain ⟨bound, hby⟩ := h.sent datagram hsent
      exact ⟨bound, hby.step hstep⟩
    intro datagram hsent
    rcases hstep.wire_cases with hwire | ⟨sender, call, hcall, hstage, _, hwire⟩
    · exact hkept datagram (hwire ▸ hsent)
    · rw [hwire, List.mem_append, List.mem_singleton] at hsent
      rcases hsent with hold | rfl
      · exact hkept datagram hold
      · have hby : client.SentBy call.datagram sender :=
          ⟨sender, call, Nat.le_refl sender, hcall, h.withId_eq hcall hstage⟩
        exact ⟨sender, hby.step hstep⟩
  · intro place datagram hheld
    rcases hstep.held_cases hheld with hold | ⟨rfl, id, hid, hplace⟩
    · exact (h.held place datagram hold).step hstep
    · obtain ⟨sent, hsent, hreplied⟩ := hhears
      obtain ⟨hsame, _⟩ := hreply sent datagram hreplied
      have hby := h.order id place hplace sent hsent (hsame.symm.trans hid)
      exact RepliedUpTo.step ⟨sent, hsent, hby, hreplied⟩ hstep
  · intro place now datagram hnow hfilled
    rcases hstep.follows_or_begins hnow with ⟨call, hcall, hfollows⟩ | ⟨hawaiting, _⟩
    · rcases hfollows.filled datagram hfilled with hold | hheld
      · exact (h.filled place call datagram hcall hold).step hstep
      · exact (h.held place datagram hheld).step hstep
    · rw [hawaiting] at hfilled
      cases hfilled

theorem Traced.run {last : Client} {steps : List Step} (horderly : client.Orderly)
    (h : client.Traced reply)
    (hreply : ∀ sent datagram, reply sent datagram → Datagram.Answers sent datagram)
    (hhears : client.Along (Client.HearsReplies reply) steps)
    (hrun : client.run steps = some last) : last.Orderly ∧ last.Traced reply := by
  refine run_induction (motive := fun client => client.Orderly ∧ client.Traced reply)
    ?_ ⟨horderly, h⟩ hhears hrun
  intro client step next hhears hstep hclient
  exact ⟨hclient.1.step hstep, hclient.2.step hclient.1 hreply hhears hstep⟩

/-! ## The main statement -/

theorem exists_call_of_result? {response : Bytes}
    (h : client.result? place = some (.ok response)) :
    ∃ call, client.calls[place]? = some call ∧ call.stage = .returned response := by
  unfold result? at h
  cases hcall : client.calls[place]? with
  | none => simp [hcall] at h
  | some call =>
      rw [hcall] at h
      cases hstage : call.stage <;> simp_all

/-- **Answers and questions.**  Let the server answer every datagram with its ID and its
question section.  A response that a call returns has the ID of the query of the call, and is a
reply to what was sent with the same ID on the way, by the call or an earlier one.  If no earlier
call has sent its query with that ID, it has the question section of the query as well. -/
theorem returned_answers (server : SocketAddress) (timeoutMilliseconds : Nat)
    {reply : Bytes → Bytes → Prop}
    (hreply : ∀ sent datagram, reply sent datagram → Datagram.Answers sent datagram)
    {steps : List Step} {client : Client}
    (hrun : (Client.idle server timeoutMilliseconds).run steps = some client)
    (hhears : (Client.idle server timeoutMilliseconds).Along (Client.HearsReplies reply) steps)
    {place : Nat} {response : Bytes} (hresult : client.result? place = some (.ok response)) :
    ∃ call, client.calls[place]? = some call ∧
      (∃ sender asked datagram, sender ≤ place ∧ client.calls[sender]? = some asked ∧
        asked.wireId = call.wireId ∧ asked.datagram ∈ client.wire ∧
        reply asked.datagram datagram ∧ Datagram.withId call.ownId datagram = .ok response ∧
        Datagram.id response = Datagram.id call.query ∧
        Datagram.questions? response = Datagram.questions? asked.query) ∧
      ((∀ before other, before < place → client.calls[before]? = some other →
          other.wireId = call.wireId → other.datagram ∉ client.wire) →
        Datagram.Answers call.query response) := by
  obtain ⟨horderly, htraced⟩ := (Traced.idle server timeoutMilliseconds).run
    (Orderly.idle server timeoutMilliseconds) hreply hhears hrun
  obtain ⟨call, hcall, hstage⟩ := exists_call_of_result? hresult
  have hsound := horderly.sound place call hcall
  obtain ⟨datagram, hfilled, hresponse⟩ := hsound.returned response hstage
  obtain ⟨sent, hsent, ⟨sender, asked, hsender, hasked, hwithId⟩, hreplied⟩ :=
    htraced.filled place call datagram hcall hfilled
  obtain ⟨hsameId, hsameQuestions⟩ := hreply sent datagram hreplied
  have hdatagram := datagram_eq_of_withId hwithId
  have hwire : asked.wireId = call.wireId := by
    obtain ⟨_, hid⟩ := hsound.filled datagram hfilled
    rw [hsameId, Datagram.id_withId hwithId] at hid
    exact Except.ok.inj hid
  have hid : Datagram.id response = Datagram.id call.query := by
    rcases htraced.read place call hcall with ⟨fault, hfailed⟩ | hown
    · rw [hstage] at hfailed
      cases hfailed
    · rw [Datagram.id_withId hresponse, hown]
  have hquestions : Datagram.questions? response = Datagram.questions? asked.query :=
    calc
      Datagram.questions? response = Datagram.questions? datagram :=
        Datagram.questions?_withId hresponse
      _ = Datagram.questions? sent := hsameQuestions
      _ = Datagram.questions? asked.query := Datagram.questions?_withId hwithId
  refine ⟨call, hcall, ⟨sender, asked, datagram, hsender, hasked, hwire, ?_, ?_, hresponse, hid,
    hquestions⟩, ?_⟩
  · rwa [hdatagram]
  · rwa [hdatagram]
  · intro hfresh
    rcases Nat.lt_or_eq_of_le hsender with hbefore | rfl
    · exact absurd (hdatagram ▸ hsent) (hfresh sender asked hbefore hasked hwire)
    · obtain rfl := Option.some.inj (hasked.symm.trans hcall)
      exact ⟨hid, hquestions⟩

/-! ## Two calls -/

/-- A server that knows a few queries. -/
def ShortReply (sent datagram : Bytes) : Prop :=
  (sent, datagram) ∈
    [(shortMessage 5 1 97, shortMessage 5 129 97), (shortMessage 6 1 98, shortMessage 6 129 98)]

instance (sent datagram : Bytes) : Decidable (ShortReply sent datagram) :=
  inferInstanceAs (Decidable (_ ∈ _))

theorem answers_of_shortReply (sent datagram : Bytes) (h : ShortReply sent datagram) :
    Datagram.Answers sent datagram := by
  have hletter : ∀ id letter, letter = 97 ∨ letter = 98 →
      Datagram.Answers (shortMessage id 1 letter) (shortMessage id 129 letter) := by
    intro id letter hletter
    refine ⟨rfl, ?_⟩
    rcases hletter with rfl | rfl
    · cbv
    · cbv
  simp only [ShortReply, List.mem_cons, Prod.mk.injEq, List.not_mem_nil, or_false] at h
  rcases h with ⟨rfl, rfl⟩ | ⟨rfl, rfl⟩
  · exact hletter 5 97 (.inl rfl)
  · exact hletter 6 98 (.inr rfl)

/-- The second response comes first, and comes again. -/
def crossedSteps : List Step :=
  [.register (shortMessage 1 1 97) 5, .transmit 0 none, .register (shortMessage 2 1 98) 6,
    .transmit 1 none, .arrive (shortMessage 6 129 98), .handOver, .take 1,
    .arrive (shortMessage 6 129 98), .arrive (shortMessage 5 129 97), .handOver, .take 0]

def crossedClient : Client where
  server := loopback
  timeoutMilliseconds := 100
  calls :=
    [⟨shortMessage 1 1 97, 1, 5, .returned (shortMessage 1 129 97),
        .filled (shortMessage 5 129 97)⟩,
      ⟨shortMessage 2 1 98, 2, 6, .returned (shortMessage 2 129 98),
        .filled (shortMessage 6 129 98)⟩]
  wire := [shortMessage 5 1 97, shortMessage 6 1 98]

theorem returned_answers_crossed :
    (Client.idle loopback 100).run crossedSteps = some crossedClient ∧
    (Client.idle loopback 100).Along (Client.HearsReplies ShortReply) crossedSteps ∧
    crossedClient.result? 1 = some (.ok (shortMessage 2 129 98)) ∧
    Datagram.Answers (shortMessage 2 1 98) (shortMessage 2 129 98) := by
  have hrun : (Client.idle loopback 100).run crossedSteps = some crossedClient := rfl
  have hhears : (Client.idle loopback 100).Along (Client.HearsReplies ShortReply) crossedSteps := by
    decide
  have hresult : crossedClient.result? 1 = some (.ok (shortMessage 2 129 98)) := rfl
  obtain ⟨call, hcall, _, hown⟩ :=
    returned_answers loopback 100 answers_of_shortReply hrun hhears hresult
  obtain rfl := Option.some.inj hcall
  refine ⟨hrun, hhears, hresult, hown ?_⟩
  intro before other hbefore hother hwire
  obtain rfl : before = 0 := by omega
  obtain rfl := Option.some.inj hother
  revert hwire
  decide

/-- The time of the first call is over before its response comes, and the second call picks
the same ID. -/
def lateSteps : List Step :=
  [.register (shortMessage 1 1 97) 5, .transmit 0 none, .expire 0, .leave 0,
    .register (shortMessage 2 1 98) 5, .transmit 1 none, .arrive (shortMessage 5 129 97),
    .handOver, .take 1]

theorem not_returned_answers_late :
    ¬ ∀ (reply : Bytes → Bytes → Prop),
      (∀ sent datagram, reply sent datagram → Datagram.Answers sent datagram) →
      ∀ (steps : List Step) (client : Client),
        (Client.idle loopback 100).run steps = some client →
        (Client.idle loopback 100).Along (Client.HearsReplies reply) steps →
        ∀ place call response, client.calls[place]? = some call →
          client.result? place = some (.ok response) →
          Datagram.questions? response = Datagram.questions? call.query := by
  intro hclaim
  have hlate : ∃ client ∈ (Client.idle loopback 100).run lateSteps,
      client.result? 1 = some (.ok (shortMessage 2 129 97)) ∧
      ∃ call ∈ client.calls[1]?, call.query = shortMessage 2 1 98 := by decide
  obtain ⟨client, hrun, hresult, call, hcall, hquery⟩ := hlate
  have hsame := hclaim ShortReply answers_of_shortReply lateSteps client hrun (by decide) 1 call _
    hcall hresult
  have hfirst : (Datagram.questions? (shortMessage 2 129 97)).map
      (·.map fun question => question.name.labels) = some [[[97]]] := by cbv
  have hsecond : (Datagram.questions? (shortMessage 2 1 98)).map
      (·.map fun question => question.name.labels) = some [[[98]]] := by cbv
  rw [hsame, hquery, hsecond] at hfirst
  revert hfirst
  decide

end Client

end Udp

end DnsForwarder
