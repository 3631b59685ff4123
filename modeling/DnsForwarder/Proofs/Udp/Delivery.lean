import DnsForwarder.Proofs.Udp.Register

/-!
# Which responses reach their calls

The receiver takes the entry of a call out of the register before it hands the datagram over.
If the time of the call is over in between, the call still leaves, and takes out whatever is
registered under its ID by then: it may be the entry of a later call.  This is how an entry
goes without its call or the receiver, and the only way (`StepsTo.removes`).

A step that takes out the entry of a later call `Robs` it.  `Kept` is what every other step
preserves of a call.  Once a response is routed to a call, nothing but the call itself can keep
it from being returned (`Delivery`), whatever else is taken out of the register.
-/

namespace DnsForwarder.Udp

namespace Client

/-- An earlier call that leaves takes out the entry of a later one. -/
def Robs (client : Client) (victim : Nat) : Step → Prop
  | .leave leaver => leaver < victim ∧
      ∃ call ∈ client.calls[leaver]?, (call.wireId, victim) ∈ client.pending
  | _ => False

instance (client : Client) (victim : Nat) : (step : Step) → Decidable (client.Robs victim step)
  | .leave leaver => inferInstanceAs (Decidable (leaver < victim ∧
      ∃ call ∈ client.calls[leaver]?, (call.wireId, victim) ∈ client.pending))
  | .register .. | .transmit .. | .arrive _ | .handOver | .take _ | .expire _ =>
      inferInstanceAs (Decidable False)

variable {client next : Client} {place : Nat} {call : Call}

/-! ## How an entry goes -/

/-- A call that leaves while another one is registered under its ID is the earlier one. -/
theorem Orderly.leaver_lt (h : client.Orderly) {leaver holder : Nat} {fault : Fault}
    (hcall : client.calls[leaver]? = some call) (hstage : call.stage = .leaving fault)
    (hholder : (call.wireId, holder) ∈ client.pending) (hother : leaver ≠ holder) :
    leaver < holder := by
  rcases Nat.lt_or_gt_of_ne hother with hbefore | hbehind
  · exact hbefore
  · obtain ⟨cause, hfailed⟩ := h.latest _ _ hholder leaver call hbehind hcall rfl
    rw [hstage] at hfailed
    cases hfailed

/-- A registered call leaves only if it gives up by itself. -/
theorem Orderly.givesUp (h : client.Orderly) {fault : Fault}
    (hcall : client.calls[place]? = some call) (hstage : call.stage = .leaving fault)
    (hplace : (call.wireId, place) ∈ client.pending) : GivesUp fault := by
  rcases (h.sound place call hcall).leaving fault hstage with hgives | ⟨_, hclosed⟩
  · exact hgives
  · obtain ⟨_, hawaiting⟩ := h.wireId_eq hplace hcall
    rw [hclosed] at hawaiting
    cases hawaiting

theorem StepsTo.removes {step : Step} (hstep : client.StepsTo step next) (h : client.Orderly)
    {id : UInt16} (hin : (id, place) ∈ client.pending) (hout : (id, place) ∉ next.pending) :
    (∃ datagram, step = .arrive datagram ∧ Datagram.isResponse datagram = true ∧
      Datagram.id datagram = .ok id ∧ next.held = some (place, datagram)) ∨
    (∃ call fault, step = .leave place ∧ client.calls[place]? = some call ∧
      call.stage = .leaving fault ∧ GivesUp fault) ∨
    client.Robs place step := by
  cases hstep with
  | refuse | send | turn | drop | handOver => exact absurd hin hout
  | register => exact absurd (List.mem_append_left _ hin) hout
  | @route datagram routed holder _ hresponse hid hholder =>
      have hrouted : id = routed := by
        by_contra hother
        exact hout ((mem_pending_removeId client routed _).mpr ⟨hin, hother⟩)
      subst hrouted
      obtain rfl := h.eq_of_mem hin (mem_pending_of_lookup hholder)
      exact .inl ⟨datagram, rfl, hresponse, hid, rfl⟩
  | @leave leaver call _ _ _ hgone =>
      have hkept := ne_of_lookup_eq_none hgone hin
      exact absurd ((mem_pending_removeId client call.wireId _).mpr ⟨hin, hkept⟩) hout
  | @evict leaver holder call fault hcall hstage hholder =>
      have hwire : id = call.wireId := by
        by_contra hother
        exact hout ((mem_pending_removeId client call.wireId _).mpr ⟨hin, hother⟩)
      subst hwire
      by_cases hown : leaver = place
      · subst hown
        exact .inr (.inl ⟨call, fault, rfl, hcall, hstage, h.givesUp hcall hstage hin⟩)
      · have hbefore := h.leaver_lt hcall hstage hin hown
        exact .inr (.inr ⟨hbefore, call, hcall, hin⟩)

/-! ## Calls that are not robbed -/

/-- The call at `place` is registered, or a datagram is held for it. -/
def Listed (client : Client) (place : Nat) (call : Call) : Prop :=
  (call.wireId, place) ∈ client.pending ∨ ∃ datagram, client.held = some (place, datagram)

/-- What holds of the call at `place` while it is not robbed. -/
structure Keeps (client : Client) (place : Nat) (call : Call) : Prop where
  listed : call.listens = true → call.channel = .awaiting → client.Listed place call
  closed : call.channel = .closed → ∃ fault, call.stage = .failed fault
  alive : call.stage ≠ .failed .clientStopped

def Kept (client : Client) (place : Nat) : Prop :=
  ∀ call, client.calls[place]? = some call → client.Keeps place call

theorem Kept.idle (server : SocketAddress) (timeoutMilliseconds place : Nat) :
    (Client.idle server timeoutMilliseconds).Kept place := by
  intro call hcall
  cases hcall

theorem Kept.result?_ne (h : client.Kept place) :
    client.result? place ≠ some (.error .clientStopped) := by
  intro hstopped
  unfold result? at hstopped
  cases hcall : client.calls[place]? with
  | none =>
      rw [hcall] at hstopped
      cases hstopped
  | some call =>
      have halive := (h call hcall).alive
      rw [hcall] at hstopped
      cases hstage : call.stage <;> simp_all

theorem Keeps.frame (h : client.Keeps place call)
    (hlisted : client.Listed place call → next.Listed place call) : next.Keeps place call :=
  ⟨fun hlistens hchannel => hlisted (h.listed hlistens hchannel), h.closed, h.alive⟩

theorem Keeps.not_closed (h : client.Keeps place call)
    (hopen : ∀ fault, call.stage ≠ .failed fault) : call.channel ≠ .closed := by
  intro hclosed
  obtain ⟨fault, hfailed⟩ := h.closed hclosed
  exact hopen fault hfailed

theorem Keeps.turn {step : Step} {stage : Stage} (h : client.Keeps place call)
    (hsound : call.Sound) (hturn : call.Turns place step stage) :
    (client.setStage place stage).Keeps place { call with stage } := by
  refine ⟨?_, fun hclosed => absurd hclosed (h.not_closed hturn.not_failed), ?_⟩
  · intro hlistens
    cases hturn <;> cases hlistens
  · cases hturn with
    | fumble _ hchannel hfault => exact absurd hfault (hsound.withId_ne_error hchannel _)
    | _ => nofun

theorem Keeps.receive (h : client.Keeps place call) (datagram : Bytes) :
    next.Keeps place (call.receive datagram) := by
  unfold Call.receive
  split
  · exact ⟨nofun, nofun, h.alive⟩
  · rename_i hlistens
    exact ⟨fun hopen => absurd hopen hlistens, h.closed, h.alive⟩

/-- A call that leaves does not say that the client stopped. -/
theorem Keeps.leaving_ne {fault : Fault} (h : client.Keeps place call) (hsound : call.Sound)
    (hstage : call.stage = .leaving fault) : fault ≠ .clientStopped := by
  rcases hsound.leaving fault hstage with hgives | ⟨_, hclosed⟩
  · cases hgives <;> nofun
  · exact absurd hclosed (h.not_closed (by simp [hstage]))

theorem keeps_of_failed {fault : Fault} (hfailed : call.stage = .failed fault)
    (halive : fault ≠ .clientStopped) : client.Keeps place call := by
  refine ⟨?_, fun _ => ⟨fault, hfailed⟩, ?_⟩
  · intro hlistens
    exact absurd hlistens (Call.deaf_of_stage hfailed nofun nofun)
  · simpa [hfailed] using halive

theorem Kept.step {step : Step} (h : client.Kept place) (horderly : client.Orderly)
    (hspared : ¬ client.Robs place step) (hstep : client.StepsTo step next) :
    next.Kept place := by
  intro now hnow
  cases hstep with
  | refuse _ _ _ hfault =>
      rcases getElem?_addCall_eq_some.mp hnow with hold | ⟨_, rfl⟩
      · exact (h now hold).frame id
      · exact ⟨nofun, nofun, by simpa using hfault⟩
  | register =>
      rcases getElem?_addCall_eq_some.mp hnow with hold | ⟨rfl, rfl⟩
      · exact (h now hold).frame (Or.imp_left (List.mem_append_left _))
      · exact ⟨fun _ _ => .inl (by simp), nofun, nofun⟩
  | send hcall hstage =>
      rcases changeCall_cases hcall hnow with ⟨rfl, rfl⟩ | ⟨_, hold⟩
      · have hkept := h _ hcall
        have hopen := hkept.not_closed (by simp [hstage])
        have hlistens := Call.listens_iff.mpr (.inl hstage)
        exact ⟨fun _ => hkept.listed hlistens, fun hclosed => absurd hclosed hopen, nofun⟩
      · exact (h now hold).frame id
  | turn hcall hturn =>
      rcases changeCall_cases hcall hnow with ⟨rfl, rfl⟩ | ⟨_, hold⟩
      · exact (h _ hcall).turn (horderly.sound _ _ hcall) hturn
      · exact (h now hold).frame id
  | drop => exact h now hnow
  | @route datagram routed holder hfree _ _ hholder =>
      refine (h now hnow).frame ?_
      rintro (hplace | ⟨carried, hheld⟩)
      · by_cases hrouted : now.wireId = routed
        · -- the call loses its entry, but gets the datagram for it
          rw [hrouted] at hplace
          obtain rfl := horderly.eq_of_mem hplace (mem_pending_of_lookup hholder)
          exact .inr ⟨datagram, rfl⟩
        · exact .inl ((mem_pending_removeId client routed _).mpr ⟨hplace, hrouted⟩)
      · rw [hfree] at hheld
        cases hheld
  | @handOver receiver datagram hheld =>
      obtain ⟨call, hcall, _⟩ := horderly.carried receiver datagram hheld
      rcases changeCall_cases hcall hnow with ⟨rfl, rfl⟩ | ⟨hother, hold⟩
      · exact (h _ hcall).receive datagram
      · refine (h now hold).frame ?_
        rintro (hplace | ⟨carried, hcarried⟩)
        · exact .inl hplace
        · rw [hheld] at hcarried
          exact absurd (congrArg Prod.fst (Option.some.inj hcarried)) hother
  | @leave leaver call fault hcall hstage hgone =>
      rcases changeCall_cases hcall hnow with ⟨rfl, rfl⟩ | ⟨_, hold⟩
      · exact keeps_of_failed rfl ((h _ hcall).leaving_ne (horderly.sound _ _ hcall) hstage)
      · refine (h now hold).frame (Or.imp_left fun hplace => ?_)
        have hother := ne_of_lookup_eq_none hgone hplace
        exact (mem_pending_removeId client call.wireId _).mpr ⟨hplace, hother⟩
  | @evict leaver holder call fault hcall hstage hholder =>
      have hlisted := mem_pending_of_lookup hholder
      obtain ⟨left, hleft, habandoned⟩ := exists_of_changeCall hnow
      rcases changeCall_cases hcall hleft with ⟨rfl, rfl⟩ | ⟨hleaver, hold⟩
      · have halive := (h _ hcall).leaving_ne (horderly.sound _ _ hcall) hstage
        rcases habandoned with ⟨_, rfl⟩ | ⟨_, rfl⟩
        · exact keeps_of_failed (Call.abandon_stage _) halive
        · exact keeps_of_failed rfl halive
      · rcases habandoned with ⟨rfl, _⟩ | ⟨hother, rfl⟩
        · -- the entry that goes would be the one of this call
          have hbefore := horderly.leaver_lt hcall hstage hlisted hleaver
          exact absurd ⟨hbefore, call, hcall, hlisted⟩ hspared
        · refine (h now hold).frame (Or.imp_left fun hplace => ?_)
          refine (mem_pending_removeId client call.wireId _).mpr ⟨hplace, ?_⟩
          intro hsame
          change now.wireId = call.wireId at hsame
          rw [hsame] at hplace
          exact hother (horderly.eq_of_mem hlisted hplace)

/-! ## What becomes of a response -/

/-- Where a response is that was routed to the call at `place`: it is still to be handed over,
it waits for the call, or the call has returned it, unless the call gave up by itself. -/
inductive Delivery (client : Client) (place : Nat) (datagram : Bytes) (call : Call) : Prop
  | carried (hlistens : call.listens = true) (hheld : client.held = some (place, datagram))
  | ready (hlistens : call.listens = true) (hchannel : call.channel = .filled datagram)
  | returned {response : Bytes} (hstage : call.stage = .returned response)
      (hresponse : Datagram.withId call.ownId datagram = .ok response)
  | gaveUp {fault : Fault} (hstage : call.stage = .leaving fault ∨ call.stage = .failed fault)
      (hfault : GivesUp fault)

variable {datagram : Bytes}

theorem Delivery.frame (h : client.Delivery place datagram call)
    (hheld : client.held = some (place, datagram) → next.held = some (place, datagram)) :
    next.Delivery place datagram call := by
  cases h with
  | carried hlistens hcarried => exact .carried hlistens (hheld hcarried)
  | ready hlistens hchannel => exact .ready hlistens hchannel
  | returned hstage hresponse => exact .returned hstage hresponse
  | gaveUp hstage hfault => exact .gaveUp hstage hfault

/-- Nothing comes for a call any more that does not listen. -/
theorem Delivery.settled {changed : Call} (h : client.Delivery place datagram call)
    (hdeaf : call.listens ≠ true) (hstage : changed.stage = call.stage)
    (hown : changed.ownId = call.ownId) : next.Delivery place datagram changed := by
  cases h with
  | carried hlistens => exact absurd hlistens hdeaf
  | ready hlistens => exact absurd hlistens hdeaf
  | returned hreturned hresponse =>
      exact .returned (hstage.trans hreturned) (hown ▸ hresponse)
  | gaveUp hleft hfault => exact .gaveUp (by rwa [hstage]) hfault

/-- The response that a waiting call is to get has come for it, or is still held. -/
theorem Delivery.cases_of_waiting (h : client.Delivery place datagram call)
    (horderly : client.Orderly) (hcall : client.calls[place]? = some call)
    (hwaiting : call.stage = .waiting) :
    client.held = some (place, datagram) ∧ call.channel = .awaiting ∨
      call.channel = .filled datagram := by
  cases h with
  | carried _ hheld => exact .inl ⟨hheld, horderly.channel_of_held hheld hcall⟩
  | ready _ hfilled => exact .inr hfilled
  | returned hstage =>
      rw [hwaiting] at hstage
      cases hstage
  | gaveUp hstage =>
      rw [hwaiting] at hstage
      rcases hstage with hstage | hstage <;> cases hstage

theorem Delivery.turn {step : Step} {stage : Stage} (h : client.Delivery place datagram call)
    (horderly : client.Orderly) (hcall : client.calls[place]? = some call)
    (hturn : call.Turns place step stage) :
    (client.setStage place stage).Delivery place datagram { call with stage } := by
  cases hturn with
  | unsent _ cause => exact .gaveUp (.inl rfl) (.unsent cause)
  | expire _ _ server milliseconds => exact .gaveUp (.inl rfl) (.late server milliseconds)
  | take hwaiting hchannel hresponse =>
      rcases h.cases_of_waiting horderly hcall hwaiting with ⟨_, hcome⟩ | hcome
      · rw [hchannel] at hcome
        cases hcome
      · rw [hchannel] at hcome
        obtain rfl := Channel.filled.inj hcome
        exact .returned rfl hresponse
  | fumble _ hchannel hfault =>
      exact absurd hfault ((horderly.sound place call hcall).withId_ne_error hchannel _)
  | stop hwaiting hchannel =>
      rcases h.cases_of_waiting horderly hcall hwaiting with ⟨_, hcome⟩ | hcome
      · rw [hchannel] at hcome
        cases hcome
      · rw [hchannel] at hcome
        cases hcome

theorem Delivery.send (h : client.Delivery place datagram call)
    (hstage : call.stage = .registered) :
    client.Delivery place datagram { call with stage := .waiting } := by
  cases h with
  | carried _ hheld => exact .carried rfl hheld
  | ready _ hchannel => exact .ready rfl hchannel
  | returned hreturned =>
      rw [hstage] at hreturned
      cases hreturned
  | gaveUp hleft =>
      rw [hstage] at hleft
      rcases hleft with hleft | hleft <;> cases hleft

theorem Delivery.receive {held : Bytes} (h : client.Delivery place datagram call)
    (horderly : client.Orderly) (hcall : client.calls[place]? = some call)
    (hheld : client.held = some (place, held)) :
    next.Delivery place datagram (call.receive held) := by
  by_cases hlistens : call.listens = true
  · have hreceive : call.receive held = { call with channel := .filled held } := if_pos hlistens
    rw [hreceive]
    cases h with
    | carried _ hcarried =>
        rw [hheld] at hcarried
        obtain rfl := congrArg Prod.snd (Option.some.inj hcarried)
        exact .ready hlistens rfl
    | ready _ hfilled =>
        rw [horderly.channel_of_held hheld hcall] at hfilled
        cases hfilled
    | returned hstage hresponse => exact .returned hstage hresponse
    | gaveUp hstage hfault => exact .gaveUp hstage hfault
  · exact h.settled hlistens (by simp) (by simp)

/-- A call that a response was routed to is not registered any more while it listens. -/
theorem Delivery.not_listed (h : client.Delivery place datagram call)
    (horderly : client.Orderly) (hcall : client.calls[place]? = some call) {id : UInt16}
    (hplace : (id, place) ∈ client.pending) : call.listens ≠ true := by
  intro hlistens
  cases h with
  | carried _ hheld => exact horderly.not_mem_of_held hheld id hplace
  | ready _ hfilled =>
      obtain ⟨_, hawaiting⟩ := horderly.wireId_eq hplace hcall
      rw [hfilled] at hawaiting
      cases hawaiting
  | returned hstage => exact Call.deaf_of_stage hstage nofun nofun hlistens
  | gaveUp hstage =>
      rcases hstage with hstage | hstage
      · exact Call.deaf_of_stage hstage nofun nofun hlistens
      · exact Call.deaf_of_stage hstage nofun nofun hlistens

theorem Delivery.leave {fault : Fault} (h : client.Delivery place datagram call)
    (hstage : call.stage = .leaving fault) :
    next.Delivery place datagram { call with stage := .failed fault } := by
  cases h with
  | carried hlistens => exact absurd hlistens (Call.deaf_of_stage hstage nofun nofun)
  | ready hlistens => exact absurd hlistens (Call.deaf_of_stage hstage nofun nofun)
  | returned hreturned =>
      rw [hstage] at hreturned
      cases hreturned
  | gaveUp hleft hfault =>
      rw [hstage] at hleft
      rcases hleft with hleft | hleft
      · obtain rfl := Stage.leaving.inj hleft
        exact .gaveUp (.inr rfl) hfault
      · cases hleft

/-- A response that was routed to the call at `place`, which has this ID of its own. -/
def Reached (client : Client) (place : Nat) (ownId : UInt16) (datagram : Bytes) : Prop :=
  ∃ call, client.calls[place]? = some call ∧ call.ownId = ownId ∧
    client.Delivery place datagram call

theorem Reached.step {step : Step} {ownId : UInt16}
    (h : client.Reached place ownId datagram) (horderly : client.Orderly)
    (hstep : client.StepsTo step next) : next.Reached place ownId datagram := by
  obtain ⟨call, hcall, hown, hdelivery⟩ := h
  cases hstep with
  | refuse | register =>
      exact ⟨call, getElem?_addCall_eq_some.mpr (.inl hcall), hown, hdelivery.frame id⟩
  | @send sender asking hasking hstage =>
      by_cases heq : sender = place
      · subst heq
        obtain rfl := Option.some.inj (hasking.symm.trans hcall)
        exact ⟨_, getElem?_changeCall_self _ hcall, hown, (hdelivery.send hstage).frame id⟩
      · exact ⟨call, (getElem?_changeCall_of_ne _ heq).trans hcall, hown, hdelivery.frame id⟩
  | @turn _ turner turning _ hturning hturn =>
      by_cases heq : turner = place
      · subst heq
        obtain rfl := Option.some.inj (hturning.symm.trans hcall)
        exact ⟨_, getElem?_changeCall_self _ hcall, hown, hdelivery.turn horderly hcall hturn⟩
      · exact ⟨call, (getElem?_changeCall_of_ne _ heq).trans hcall, hown, hdelivery.frame id⟩
  | drop => exact ⟨call, hcall, hown, hdelivery⟩
  | route hfree =>
      refine ⟨call, hcall, hown, hdelivery.frame ?_⟩
      rw [hfree]
      nofun
  | @handOver receiver held hheld =>
      by_cases heq : receiver = place
      · subst heq
        exact ⟨_, getElem?_changeCall_self _ hcall, (Call.receive_ownId held call).trans hown,
          hdelivery.receive horderly hcall hheld⟩
      · refine ⟨call, (getElem?_changeCall_of_ne _ heq).trans hcall, hown, hdelivery.frame ?_⟩
        intro hcarried
        rw [hheld] at hcarried
        exact absurd (congrArg Prod.fst (Option.some.inj hcarried)) heq
  | @leave leaver leaving fault hleaving hstage =>
      by_cases heq : leaver = place
      · subst heq
        obtain rfl := Option.some.inj (hleaving.symm.trans hcall)
        exact ⟨_, getElem?_changeCall_self _ hcall, hown, hdelivery.leave hstage⟩
      · exact ⟨call, (getElem?_changeCall_of_ne _ heq).trans hcall, hown, hdelivery.frame id⟩
  | @evict leaver holder leaving fault hleaving hstage hholder =>
      have hlisted := mem_pending_of_lookup hholder
      -- a response was routed to this call: if it is registered all the same, it does not listen
      obtain ⟨left, hleft, hleftOwn, hleftDelivery, hdeaf⟩ : ∃ left,
          ((client.removeId leaving.wireId).setStage leaver (.failed fault)).calls[place]? =
            some left ∧ left.ownId = ownId ∧ client.Delivery place datagram left ∧
          (holder = place → left.listens ≠ true) := by
        by_cases heq : leaver = place
        · subst heq
          obtain rfl := Option.some.inj (hleaving.symm.trans hcall)
          exact ⟨_, getElem?_changeCall_self _ hcall, hown, hdelivery.leave hstage, nofun⟩
        · refine ⟨call, (getElem?_changeCall_of_ne _ heq).trans hcall, hown, hdelivery, ?_⟩
          rintro rfl
          exact hdelivery.not_listed horderly hcall hlisted
      by_cases heq : holder = place
      · subst heq
        exact ⟨_, getElem?_changeCall_self _ hleft, (Call.abandon_ownId left).trans hleftOwn,
          hleftDelivery.settled (hdeaf rfl) (Call.abandon_stage left) (Call.abandon_ownId left)⟩
      · exact ⟨left, (getElem?_changeCall_of_ne _ heq).trans hleft, hleftOwn,
          hleftDelivery.frame id⟩

/-! ## The main statement -/

theorem Kept.run {last : Client} {steps : List Step} (h : client.Kept place)
    (horderly : client.Orderly)
    (halong : client.Along (fun client step => ¬ client.Robs place step) steps)
    (hrun : client.run steps = some last) : last.Orderly ∧ last.Kept place := by
  refine run_induction (motive := fun client => client.Orderly ∧ client.Kept place)
    ?_ ⟨horderly, h⟩ halong hrun
  intro client step next hspared hstep hclient
  exact ⟨hclient.1.step hstep, hclient.2.step hclient.1 hspared hstep⟩

theorem Reached.run {last : Client} {steps : List Step} {ownId : UInt16}
    (horderly : client.Orderly) (h : client.Reached place ownId datagram)
    (hrun : client.run steps = some last) :
    last.Orderly ∧ last.Reached place ownId datagram := by
  refine run_induction
    (motive := fun client => client.Orderly ∧ client.Reached place ownId datagram)
    ?_ ⟨horderly, h⟩ (along_of_forall (fun _ _ => trivial) client steps) hrun
  intro client step next _ hstep hclient
  exact ⟨hclient.1.step hstep, hclient.2.step hclient.1 hstep⟩

theorem Keeps.arrive (h : client.Keeps place call) (horderly : client.Orderly)
    (hcall : client.calls[place]? = some call) (hlistens : call.listens = true)
    (hchannel : call.channel = .awaiting) (hfree : client.held = none)
    (hresponse : Datagram.isResponse datagram = true)
    (hid : Datagram.id datagram = .ok call.wireId) :
    ∃ next, client.step (.arrive datagram) = some next ∧
      next.Reached place call.ownId datagram := by
  obtain hplace | ⟨_, hheld⟩ := h.listed hlistens hchannel
  · have hlookup := horderly.lookup_eq_some hplace
    refine ⟨{ client.removeId call.wireId with held := some (place, datagram) }, ?_,
      call, hcall, rfl, .carried hlistens rfl⟩
    simp [Client.step, Client.arrive, hfree, hresponse, hid, hlookup]
  · rw [hfree] at hheld
    cases hheld

/-- A waiting call can take the response once it was handed over. -/
theorem Delivery.take (h : client.Delivery place datagram call) (horderly : client.Orderly)
    (hcall : client.calls[place]? = some call) (hfree : client.held = none)
    (hwaiting : call.stage = .waiting) :
    ∃ response done, Datagram.withId call.ownId datagram = .ok response ∧
      client.step (.take place) = some done ∧ done.result? place = some (.ok response) := by
  rcases h.cases_of_waiting horderly hcall hwaiting with ⟨hheld, _⟩ | hfilled
  · rw [hfree] at hheld
    cases hheld
  · cases hresponse : Datagram.withId call.ownId datagram with
    | error fault =>
        exact absurd hresponse ((horderly.sound place call hcall).withId_ne_error hfilled fault)
    | ok response =>
        refine ⟨response, client.setStage place (.returned response), rfl, ?_, ?_⟩
        · simp [Client.step, Client.take, hcall, hwaiting, hfilled, hresponse]
        · have hdone : (client.setStage place (.returned response)).calls[place]? =
              some { call with stage := .returned response } :=
            getElem?_changeCall_self _ hcall
          rw [result?, hdone]
          rfl

/-- **Entries and responses.**  An entry leaves the register only because the receiver took
it for a response with its ID, because its call gave up by itself, or because an earlier call
with the same ID left.  A call that is spared by earlier ones never fails because the client
stopped, and a response that arrives for it while it listens is routed to it: whatever happens
then, the call gets the response or gives up by itself. -/
theorem answered_unless_robbed (server : SocketAddress) (timeoutMilliseconds : Nat)
    {steps : List Step} {client : Client}
    (hrun : (Client.idle server timeoutMilliseconds).run steps = some client) :
    (∀ step next id place, client.step step = some next → (id, place) ∈ client.pending →
      (id, place) ∉ next.pending →
      (∃ datagram, step = .arrive datagram ∧ Datagram.isResponse datagram = true ∧
        Datagram.id datagram = .ok id ∧ next.held = some (place, datagram)) ∨
      (∃ call fault, step = .leave place ∧ client.calls[place]? = some call ∧
        call.stage = .leaving fault ∧ GivesUp fault) ∨
      client.Robs place step) ∧
    ∀ place, (Client.idle server timeoutMilliseconds).Along
        (fun client step => ¬ client.Robs place step) steps →
      client.result? place ≠ some (.error .clientStopped) ∧
      ∀ call datagram, client.calls[place]? = some call → call.listens = true →
        call.channel = .awaiting → client.held = none →
        Datagram.isResponse datagram = true → Datagram.id datagram = .ok call.wireId →
        ∃ next, client.step (.arrive datagram) = some next ∧
          ∀ later last, next.run later = some last → ∃ now, last.calls[place]? = some now ∧
            now.ownId = call.ownId ∧ last.Delivery place datagram now ∧
            (last.held = none → now.stage = .waiting → ∃ response done,
              Datagram.withId call.ownId datagram = .ok response ∧
              last.step (.take place) = some done ∧
              done.result? place = some (.ok response)) := by
  have horderly := (Orderly.idle server timeoutMilliseconds).run hrun
  refine ⟨?_, ?_⟩
  · intro step next id place hstep hin hout
    exact (stepsTo_of_step hstep).removes horderly hin hout
  · intro place halong
    obtain ⟨_, hkept⟩ := (Kept.idle server timeoutMilliseconds place).run
      (Orderly.idle server timeoutMilliseconds) halong hrun
    refine ⟨hkept.result?_ne, ?_⟩
    intro call datagram hcall hlistens hchannel hfree hresponse hid
    obtain ⟨next, hnext, hreached⟩ :=
      (hkept call hcall).arrive horderly hcall hlistens hchannel hfree hresponse hid
    refine ⟨next, hnext, ?_⟩
    intro later last hlast
    have hnow := horderly.step (stepsTo_of_step hnext)
    obtain ⟨hlastOrderly, now, hnowCall, hown, hdelivery⟩ := hreached.run hnow hlast
    refine ⟨now, hnowCall, hown, hdelivery, ?_⟩
    intro hempty hwaiting
    rw [← hown]
    exact hdelivery.take hlastOrderly hnowCall hempty hwaiting

/-! ## Two calls -/

/-- A query for the addresses of a name of one letter, or a response without any. -/
def shortMessage (id : UInt16) (flags letter : UInt8) : Bytes :=
  Wire.bytes16 id ++ [flags, 0, 0, 1, 0, 0, 0, 0, 0, 0, 1, letter, 0, 0, 1, 0, 1]

def loopback : SocketAddress := .v4 ⟨127, 0, 0, 1⟩ 53

/-- The first call leaves under its own ID while the second one waits. -/
def sparedSteps : List Step :=
  [.register (shortMessage 1 1 97) 5, .transmit 0 none, .register (shortMessage 2 1 98) 6,
    .transmit 1 none, .expire 0, .leave 0]

def sparedClient : Client where
  server := loopback
  timeoutMilliseconds := 100
  calls :=
    [⟨shortMessage 1 1 97, 1, 5, .failed (.noAnswer loopback.text 100), .closed⟩,
      ⟨shortMessage 2 1 98, 2, 6, .waiting, .awaiting⟩]
  pending := [(6, 1)]
  wire := [shortMessage 5 1 97, shortMessage 6 1 98]

theorem answered_unless_robbed_spared :
    (Client.idle loopback 100).run sparedSteps = some sparedClient ∧
    (Client.idle loopback 100).Along (fun client step => ¬ client.Robs 1 step) sparedSteps ∧
    sparedClient.result? 1 ≠ some (.error .clientStopped) ∧
    ∃ next, sparedClient.step (.arrive (shortMessage 6 129 98)) = some next ∧
      (6, 1) ∈ sparedClient.pending ∧ (6, 1) ∉ next.pending ∧
      (∃ datagram, next.held = some (1, datagram)) ∧
      ∀ later last, next.run later = some last → ∃ now, last.calls[1]? = some now ∧
        last.Delivery 1 (shortMessage 6 129 98) now := by
  have hrun : (Client.idle loopback 100).run sparedSteps = some sparedClient := rfl
  have halong : (Client.idle loopback 100).Along (fun client step => ¬ client.Robs 1 step)
      sparedSteps := by decide
  obtain ⟨hremoved, hserved⟩ := answered_unless_robbed loopback 100 hrun
  obtain ⟨halive, hreaches⟩ := hserved 1 halong
  obtain ⟨next, hnext, hlater⟩ := hreaches _ (shortMessage 6 129 98) rfl (by decide) (by decide)
    (by decide) (by decide) (by decide)
  have hgone : (6, 1) ∉ next.pending := by
    obtain rfl := Option.some.inj hnext
    decide
  refine ⟨hrun, halong, halive, next, hnext, by decide, hgone, ?_, ?_⟩
  · rcases hremoved _ next 6 1 hnext (by decide) hgone with
      ⟨datagram, _, _, _, hheld⟩ | ⟨_, _, hleave, _⟩ | hrobs
    · exact ⟨datagram, hheld⟩
    · cases hleave
    · exact hrobs.elim
  · intro later last hlast
    obtain ⟨now, hnow, _, hdelivery, _⟩ := hlater later last hlast
    exact ⟨now, hnow, hdelivery⟩

/-- The time of the first call is over when the receiver has taken its entry for a response,
and the second call picks the same ID before the first one leaves. -/
def robbedSteps : List Step :=
  [.register (shortMessage 1 1 97) 5, .transmit 0 none, .expire 0,
    .arrive (shortMessage 5 129 97), .register (shortMessage 2 1 98) 5, .leave 0, .handOver,
    .transmit 1 none, .arrive (shortMessage 5 129 98), .take 1, .leave 1]

theorem not_answered_robbed :
    ¬ ∀ (steps : List Step) (client : Client),
      (Client.idle loopback 100).run steps = some client →
      ∀ place, client.result? place ≠ some (.error .clientStopped) := by
  intro hclaim
  have hstopped : ∃ client ∈ (Client.idle loopback 100).run robbedSteps,
      client.result? 1 = some (.error .clientStopped) := by decide
  obtain ⟨client, hrun, hresult⟩ := hstopped
  exact hclaim robbedSteps client hrun 1 hresult

end Client

end DnsForwarder.Udp
