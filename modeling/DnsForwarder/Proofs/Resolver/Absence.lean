import DnsForwarder.Proofs.Resolver.Freshness

/-!
# How long an absence is believed

A negative response says that there is no such name, or no record of the type asked for.  How
long that may be believed is said by the first SOA record among its authorities, and by the
policy where there is none; no other record is looked at.  So the entry of a negative response
may outlive records that stand beside the SOA record, such as the aliases that lead to the name
that does not exist.

A lookup finds the entry only while the absence may be believed.  What is promised of a record
of such a response is therefore promised of those that live as long as that
(`negative_hits_believed`): the SOA record is one of them.  `not_negative_hits_live_alias` is an
alias that is not, and is still told to the client when its time is over.
-/

namespace DnsForwarder

theorem Record.negativeLifetime?_le {record : Record} {limit : UInt32}
    (h : record.negativeLifetime? = some limit) : limit.toNat ≤ record.ttl.toNat := by
  unfold negativeLifetime? at h
  split at h
  · obtain rfl := Option.some.inj h
    exact UInt32.le_iff_toNat_le.mp Std.min_le_left
  · cases h

namespace Message

/-- `record` is the first SOA record among the authorities, and an absence may be believed for
`limit` seconds because of it. -/
structure Denies (response : Message) (record : Record) (limit : UInt32) : Prop where
  first : ∃ before after, response.authorities = before ++ record :: after ∧
    ∀ earlier ∈ before, earlier.negativeLifetime? = none
  limit : record.negativeLifetime? = some limit

/-- How long the absence that a negative response states may be believed. -/
def believed (policy : LifetimePolicy) (response : Message) : Duration :=
  match response.authorities.findSome? Record.negativeLifetime? with
  | some limit => seconds limit.toNat
  | none => policy.negative

variable {policy : LifetimePolicy} {response : Message}

theorem Denies.believed_eq {record : Record} {limit : UInt32}
    (h : response.Denies record limit) (policy : LifetimePolicy) :
    response.believed policy = seconds limit.toNat := by
  obtain ⟨before, after, hauthorities, hbefore⟩ := h.first
  have hlimit : response.authorities.findSome? Record.negativeLifetime? = some limit :=
    List.findSome?_eq_some_iff.mpr ⟨before, record, after, hauthorities, h.limit, hbefore⟩
  rw [believed, hlimit]

theorem isNegative_iff : response.isNegative = true ↔
    response.responseCode = nameError ∨
      response.responseCode = noError ∧ response.answers = [] := by
  simp [isNegative]

/-- A negative response is kept for as long as the absence may be believed, within the bounds of
the policy. -/
theorem lifetime?_negative {lifetime : Duration} (hlowest : policy.lowest = 0)
    (h : response.lifetime? policy = some lifetime) (hnegative : response.isNegative = true) :
    lifetime = min (response.believed policy) policy.highest := by
  have hown : response.ownLifetime policy = some (response.believed policy) := by
    rw [ownLifetime, if_pos hnegative, believed]
    cases response.authorities.findSome? Record.negativeLifetime? <;> rfl
  unfold lifetime? at h
  split at h
  · cases h
  rw [hown] at h
  obtain ⟨_, hbounded⟩ := Option.ite_none_left_eq_some.mp h
  rw [hlowest, Nat.max_zero] at hbounded
  exact (Option.some.inj hbounded).symm

end Message

namespace Resolver

/-- **Negative answers from the cache are believed in time.**  Let the policy set no lower bound.
When a request is answered from the cache with a negative response after any moves, the entry is
younger than the policy and the time for which the absence may be believed.  So a record that
lives as long as that has at least a second left, the SOA record among them; of every record the
client reads what is left, which may be nothing, as far as the response can travel. -/
theorem negative_hits_believed (options : Options) (hlowest : options.lifetimes.lowest = 0)
    (moves : List Move) (around : Surroundings) (request : Bytes) (key : String)
    (hanswered : AnsweredFromCache options around (Traffic.run options .start moves).shared
      request key) :
    ∃ query entry kept response whole served,
      Found options (Traffic.run options .start moves) around request key query entry kept
        response ∧
      (∃ given, KeptBy options moves given key entry) ∧
      whole = (Message.aged (entry.age around.now) query kept).carried ∧
      Message.decode? response = some served ∧ whole.LeftOf served ∧
      (whole.responseCode = Message.nameError ∨
          whole.responseCode = Message.noError ∧ whole.answers = [] →
        entry.age around.now < min (kept.believed options.lifetimes) options.lifetimes.highest ∧
        (∀ record limit, kept.Denies record limit →
          wholeSeconds (entry.age around.now) < limit.toNat ∧
            wholeSeconds (entry.age around.now) < record.ttl.toNat) ∧
        (∀ record ∈ kept.records,
          min (kept.believed options.lifetimes) options.lifetimes.highest ≤
              seconds record.ttl.toNat →
            wholeSeconds (entry.age around.now) < record.ttl.toNat) ∧
        List.Forall₂ (Record.Ages (entry.age around.now)) kept.answers whole.answers ∧
        List.Forall₂ (Record.Ages (entry.age around.now)) kept.authorities whole.authorities ∧
        List.Forall₂ (Record.Ages (entry.age around.now)) kept.additionals
          whole.additionals) := by
  have hsourced := run_sourced options moves
  obtain ⟨query, entry, kept, response, hfound⟩ := exists_found hsourced hanswered
  obtain ⟨served, hserved, hleft⟩ := hfound.exists_served
  obtain ⟨given, hgiven⟩ := exists_answer_of_stored (stored_of_get hfound.got)
  refine ⟨query, entry, kept, response, _, served, hfound, ⟨_, hgiven.kept⟩, rfl, hserved, hleft,
    fun hstates => ?_⟩
  obtain ⟨answer, _, _, horigin⟩ := hfound.origin
  have hlifetime : kept.lifetime? options.lifetimes = some entry.lifetime := by
    have hlasting := horigin.lasting
    rwa [hfound.holds, Option.bind_some] at hlasting
  -- the kept response is negative because the aged one is: aging keeps code and answers
  have hnegative : kept.isNegative = true := by
    refine Message.isNegative_iff.mpr (hstates.imp_right fun ⟨hcode, hnone⟩ => ⟨hcode, ?_⟩)
    simpa [Message.aged, Message.carried] using hnone
  have hage : entry.age around.now <
      min (kept.believed options.lifetimes) options.lifetimes.highest := by
    rw [← Message.lifetime?_negative hlowest hlifetime hnegative]
    exact hfound.age_lt
  refine ⟨hage, fun record limit hdenies => ?_, fun record _ hcovers => ?_,
    (Message.decode?_readable hfound.holds).ages (entry.age around.now) query⟩
  · have hlimit : wholeSeconds (entry.age around.now) < limit.toNat := by
      apply wholeSeconds_lt
      rw [← hdenies.believed_eq options.lifetimes]
      exact Nat.lt_of_lt_of_le hage (Nat.min_le_left _ _)
    exact ⟨hlimit, Nat.lt_of_lt_of_le hlimit (Record.negativeLifetime?_le hdenies.limit)⟩
  · exact wholeSeconds_lt (Nat.lt_of_lt_of_le hage hcovers)

/-! ## An alias to a name that does not exist -/

/-- The alias is for ten seconds, and the SOA record for five minutes. -/
def aliasResponse : Bytes :=
  [0, 1, 129, 131, 0, 1, 0, 1, 0, 1, 0, 0, 1, 97, 0, 0, 1, 0, 1,
    192, 12, 0, 5, 0, 1, 0, 0, 0, 10, 0, 3, 1, 98, 0,
    0, 0, 6, 0, 1, 0, 0, 1, 44, 0, 22, 0, 0, 0, 0, 0, 1, 0, 0, 0, 2, 0, 0, 0, 3, 0, 0, 0, 4,
    0, 0, 1, 44]

def aliasRecord : Record := ⟨.letter, .cname, ⟨1⟩, 10, some (.host ⟨[[98]], by decide⟩)⟩

def denialRecord : Record :=
  ⟨.root, .soa, ⟨1⟩, 300, some (.authority .root .root 1 2 3 4 300)⟩

def aliasReply : Message where
  header := { Header.replying 1 with code := ⟨3, by decide⟩ }
  questions := [typeQuestion 1]
  answers := [aliasRecord]
  authorities := [denialRecord]
  additionals := []
  edns := none

theorem denies_aliasReply : aliasReply.Denies denialRecord 300 :=
  ⟨⟨[], [], rfl, nofun⟩, by decide⟩

/-- One and a half minutes after the response was kept it still answers requests. -/
theorem exists_moves_alias :
    ∃ moves, AnsweredFromCache wideOptions ninetySecondsLater
        (Traffic.run wideOptions .start moves).shared (typeRequest 2 1) addressKey ∧
      (Traffic.run wideOptions .start moves).shared.cache =
        .memory [(addressKey, ⟨aliasResponse, 0, seconds 300⟩)] ∧
      Message.decode? aliasResponse = some aliasReply := by
  have hkept : Message.decode? aliasResponse = some aliasReply := by cbv
  obtain ⟨moves, _, hcache, hworking, _⟩ :=
    exists_moves_address decode?_addressRequest rfl hkept rfl (by decide)
  exact ⟨moves, answeredFromCache_address hcache hworking (by decide) (by cbv), hcache, hkept⟩

/-- What such a request finds is the response with the alias. -/
theorem Found.eq_alias {traffic : Traffic} {around : Surroundings} {request : Bytes}
    {query kept : Message} {entry : Entry} {response : Bytes}
    (h : Found wideOptions traffic around request addressKey query entry kept response)
    (hcache : traffic.shared.cache = .memory [(addressKey, ⟨aliasResponse, 0, seconds 300⟩)])
    (hkept : Message.decode? aliasResponse = some aliasReply) :
    entry = ⟨aliasResponse, 0, seconds 300⟩ ∧ kept = aliasReply := by
  have hstored := stored_of_get h.got
  rw [hcache, Cache.stored?, List.lookup_cons_self] at hstored
  obtain rfl := Option.some.inj hstored
  exact ⟨rfl, Option.some.inj (h.holds.symm.trans hkept)⟩

/-- The absence may still be believed, and of the alias nothing is left. -/
theorem negative_hits_believed_alias :
    ∃ moves query entry kept response served,
      AnsweredFromCache wideOptions ninetySecondsLater
        (Traffic.run wideOptions .start moves).shared (typeRequest 2 1) addressKey ∧
      Found wideOptions (Traffic.run wideOptions .start moves) ninetySecondsLater
        (typeRequest 2 1) addressKey query entry kept response ∧
      Message.decode? response = some served ∧ served.responseCode = Message.nameError ∧
      kept.Denies denialRecord 300 ∧ wholeSeconds (entry.age ninetySecondsLater.now) < 300 ∧
      kept.answers.map (fun record => record.ttl.toNat) = [10] ∧
      served.answers.map (fun record => record.ttl.toNat) = [0] := by
  obtain ⟨moves, hanswered, hcache, hkept⟩ := exists_moves_alias
  obtain ⟨query, entry, kept, response, whole, served, hfound, _, rfl, hserved, hleft,
    hbelieved⟩ := negative_hits_believed wideOptions rfl moves _ _ _ hanswered
  obtain ⟨rfl, rfl⟩ := hfound.eq_alias hcache hkept
  obtain rfl := Option.some.inj (decode?_addressRequestAgain.symm.trans hfound.reads)
  obtain rfl := hleft.complete (by cbv)
  obtain ⟨_, hdenied, _, hanswers, _⟩ := hbelieved (.inl rfl)
  refine ⟨moves, _, _, aliasReply, response, _, hanswered, hfound, hserved, rfl,
    denies_aliasReply, (hdenied _ _ denies_aliasReply).1, rfl, ?_⟩
  obtain ⟨reply, rest, hages, hrest, hreplies⟩ := List.forall₂_cons_left_iff.mp hanswers
  have hnothing : reply.ttl.toNat = 0 := hages.ttl
  rw [List.forall₂_nil_left_iff.mp hrest] at hreplies
  rw [hreplies, List.map_singleton, hnothing]

/-- The time of the alias is over, and the client is told of it. -/
theorem not_negative_hits_live_alias :
    ¬ ∀ (moves : List Move) (around : Surroundings) (request : Bytes) (key : String)
        (query : Message) (entry : Entry) (kept : Message) (response : Bytes),
      AnsweredFromCache wideOptions around (Traffic.run wideOptions .start moves).shared
        request key →
      Found wideOptions (Traffic.run wideOptions .start moves) around request key query entry
        kept response →
      kept.responseCode = Message.nameError →
      ∀ record ∈ kept.answers ++ kept.authorities,
        wholeSeconds (entry.age around.now) < record.ttl.toNat := by
  intro hclaim
  obtain ⟨moves, hanswered, hcache, hkept⟩ := exists_moves_alias
  obtain ⟨query, entry, kept, response, hfound⟩ :=
    exists_found (run_sourced wideOptions moves) hanswered
  obtain ⟨rfl, rfl⟩ := hfound.eq_alias hcache hkept
  have hlives := hclaim moves _ _ _ query _ _ response hanswered hfound rfl aliasRecord
    List.mem_cons_self
  revert hlives
  decide

end Resolver

end DnsForwarder
