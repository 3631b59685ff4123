import DnsForwarder.Proofs.Resolver.Hits

/-!
# How much time is left of an answer from the cache

A positive response lives as long as its shortest record, and not longer than the policy allows,
if that sets no lower bound.  The lookup finds an entry only while its lifetime is not over, so
every record of it has at least one second left when it answers a request, and the client reads
what is left (`positive_hits_live`).

The age counts from the move that kept the response (`KeptBy`), however often it was found since.
-/

namespace DnsForwarder

theorem wholeSeconds_lt {span : Duration} {count : Nat} (h : span < seconds count) :
    wholeSeconds span < count :=
  (Nat.div_lt_iff_lt_mul (by decide)).mpr h

/-- A record that still lives after `elapsed`, as the client reads it. -/
structure Record.Lives (elapsed : Duration) (kept reply : Record) : Prop
    extends kept.Ages elapsed reply where
  sum : reply.ttl.toNat + wholeSeconds elapsed = kept.ttl.toNat
  positive : 1 ≤ reply.ttl.toNat

namespace Message

/-- A positive response lives neither longer than the policy allows nor than any of its
records. -/
theorem lifetime?_positive {policy : LifetimePolicy} {response : Message} {lifetime : Duration}
    (hlowest : policy.lowest = 0) (h : response.lifetime? policy = some lifetime)
    (hcode : response.responseCode = noError) (hanswers : response.answers ≠ []) :
    lifetime ≤ policy.highest ∧
      ∀ record ∈ response.records, lifetime ≤ seconds record.ttl.toNat := by
  have hpositive : response.isNegative = false := by
    simp [isNegative, hcode, hanswers, noError, nameError]
  unfold lifetime? at h
  split at h
  · cases h
  obtain ⟨own, hown, h⟩ := Option.bind_eq_some_iff.mp h
  obtain ⟨_, hbounded⟩ := Option.ite_none_left_eq_some.mp h
  obtain rfl := Option.some.inj hbounded
  rw [ownLifetime, hpositive] at hown
  obtain ⟨shortest, hshortest, rfl⟩ := Option.map_eq_some_iff.mp hown
  refine ⟨Nat.min_le_right _ _, fun record hrecord => ?_⟩
  have hmin : shortest ≤ record.ttl.toNat :=
    (List.min?_eq_some_iff.mp hshortest).2 _ (List.mem_map_of_mem hrecord)
  calc
    min (max (seconds shortest) policy.lowest) policy.highest
      ≤ max (seconds shortest) policy.lowest := Nat.min_le_left _ _
    _ = seconds shortest := by rw [hlowest, Nat.max_zero]
    _ ≤ seconds record.ttl.toNat := Nat.mul_le_mul_right _ hmin

/-- While all records live, the client reads of each what is left of it. -/
theorem forall₂_lives {elapsed : Duration} {records replies : List Record}
    (hages : List.Forall₂ (Record.Ages elapsed) records replies)
    (hlives : ∀ record ∈ records, elapsed < seconds record.ttl.toNat) :
    List.Forall₂ (Record.Lives elapsed) records replies := by
  have hboth := (List.forall₂_and_left records replies).mpr ⟨hlives, hages⟩
  refine hboth.imp ?_
  rintro record reply ⟨hlife, hage⟩
  have hwhole := wholeSeconds_lt hlife
  have httl := hage.ttl
  exact ⟨hage, by omega, by omega⟩

end Message

namespace Resolver

/-- **Positive answers from the cache are alive.**  Let the policy set no lower bound.  When a
request is answered from the cache after any moves, the entry is as old as the move that kept it
says, and what the client reads before it is fitted is the kept response, aged, as far as that can
travel.  If it is positive, the entry is younger than the policy and every record of it allow, and
each record has its own TTL less the whole seconds that have passed, which leaves at least one. -/
theorem positive_hits_live (options : Options) (hlowest : options.lifetimes.lowest = 0)
    (moves : List Move) (around : Surroundings) (request : Bytes) (key : String)
    (hanswered : AnsweredFromCache options around (Traffic.run options .start moves).shared
      request key) :
    ∃ query entry kept response whole served,
      Found options (Traffic.run options .start moves) around request key query entry kept
        response ∧
      (∃ given, KeptBy options moves given key entry) ∧
      whole = (Message.aged (entry.age around.now) query kept).carried ∧
      Message.decode? response = some served ∧ whole.LeftOf served ∧
      (whole.responseCode = Message.noError → whole.answers ≠ [] →
        entry.age around.now < options.lifetimes.highest ∧
        (∀ record ∈ kept.records, entry.age around.now < seconds record.ttl.toNat) ∧
        List.Forall₂ (Record.Lives (entry.age around.now)) kept.answers whole.answers ∧
        List.Forall₂ (Record.Lives (entry.age around.now)) kept.authorities whole.authorities ∧
        List.Forall₂ (Record.Lives (entry.age around.now)) kept.additionals
          whole.additionals) := by
  have hsourced := run_sourced options moves
  obtain ⟨query, entry, kept, response, hfound⟩ := exists_found hsourced hanswered
  obtain ⟨served, hserved, hleft⟩ := hfound.exists_served
  obtain ⟨given, hgiven⟩ := exists_answer_of_stored (stored_of_get hfound.got)
  refine ⟨query, entry, kept, response, _, served, hfound, ⟨_, hgiven.kept⟩, rfl, hserved, hleft,
    fun hcode hanswers => ?_⟩
  obtain ⟨answer, _, _, horigin⟩ := hfound.origin
  have hlifetime : kept.lifetime? options.lifetimes = some entry.lifetime := by
    have hlasting := horigin.lasting
    rwa [hfound.holds, Option.bind_some] at hlasting
  have hpositive : kept.answers ≠ [] := by
    intro hnone
    exact hanswers (by simp [Message.aged, Message.carried, hnone])
  obtain ⟨hhighest, hrecords⟩ := Message.lifetime?_positive hlowest hlifetime hcode hpositive
  have hlives : ∀ record ∈ kept.records, entry.age around.now < seconds record.ttl.toNat :=
    fun record hrecord => Nat.lt_of_lt_of_le hfound.age_lt (hrecords record hrecord)
  obtain ⟨hans, hauth, hadd⟩ :=
    (Message.decode?_readable hfound.holds).ages (entry.age around.now) query
  refine ⟨Nat.lt_of_lt_of_le hfound.age_lt hhighest, hlives, ?_, ?_, ?_⟩
  · exact Message.forall₂_lives hans fun record hrecord =>
      hlives record (by simp [Message.records, hrecord])
  · exact Message.forall₂_lives hauth fun record hrecord =>
      hlives record (by simp [Message.records, hrecord])
  · exact Message.forall₂_lives hadd fun record hrecord =>
      hlives record (by simp [Message.records, hrecord])

/-- A lookup one and a half minutes after the response was kept, whose only record had five. -/
def ninetySecondsLater : Surroundings :=
  { answering (typeResponse 1 1) with now := seconds 90 + 500000000 }

theorem positive_hits_live_address :
    ∃ moves query entry kept response served,
      AnsweredFromCache wideOptions ninetySecondsLater
        (Traffic.run wideOptions .start moves).shared (typeRequest 2 1) addressKey ∧
      Found wideOptions (Traffic.run wideOptions .start moves) ninetySecondsLater
        (typeRequest 2 1) addressKey query entry kept response ∧
      (∃ given, KeptBy wideOptions moves given addressKey entry) ∧
      Message.decode? response = some served ∧
      kept.answers.map (fun record => record.ttl.toNat) = [300] ∧
      served.answers.map (fun record => record.ttl.toNat) = [210] := by
  obtain ⟨moves, _, hcache, hworking, _⟩ :=
    exists_moves_address decode?_addressRequest rfl decode?_addressResponse rfl (by decide)
  have hanswered := @answeredFromCache_address ninetySecondsLater _ _ _ hcache hworking
    (by decide) (by cbv)
  obtain ⟨query, entry, kept, response, whole, served, hfound, hkeptBy, rfl, hserved, hleft,
    hlive⟩ := positive_hits_live wideOptions rfl moves _ _ _ hanswered
  refine ⟨moves, query, entry, kept, response, served, hanswered, hfound, hkeptBy, hserved, ?_⟩
  have hstored := stored_of_get hfound.got
  rw [hcache, Cache.stored?, List.lookup_cons_self] at hstored
  obtain rfl := Option.some.inj hstored
  obtain rfl := Option.some.inj (decode?_addressResponse.symm.trans hfound.holds)
  obtain rfl := Option.some.inj (decode?_addressRequestAgain.symm.trans hfound.reads)
  obtain rfl := hleft.complete (by cbv)
  obtain ⟨_, _, hanswers, _⟩ := hlive rfl (by simp [Message.aged, Message.carried, addressReply])
  obtain ⟨reply, rest, hlife, hrest, hreplies⟩ := List.forall₂_cons_left_iff.mp hanswers
  have hsum : reply.ttl.toNat + 90 = 300 := hlife.sum
  rw [List.forall₂_nil_left_iff.mp hrest] at hreplies
  rw [hreplies, List.map_singleton, List.singleton_inj]
  exact ⟨rfl, by omega⟩

end Resolver

end DnsForwarder
