import DnsForwarder.Proofs.Cache.Key
import DnsForwarder.Proofs.Resolver.Origin
import DnsForwarder.Proofs.Resolver.Sequence

/-!
# Whose response answers a request from the cache

A request that is answered from the cache gets the response that the remote
server gave to an earlier request.  That one was a standard query with a single
question, and it agreed with the later request in having an OPT record, in asking
for signatures and in switching off their check.

It asked the same question if type and class have mnemonics.  Types without one
are written alike in the key, and so are classes without one, so there the
question may be another (`Question.Alike`).  `alike_iff_questionKey_eq` says that
this is the whole of it, and `not_stemsFrom_same` is such a case: the response
to a request for one unassigned type answers a request for another.
-/

namespace DnsForwarder

namespace Question

/-- The same question up to the case of the name. -/
def Same (one other : Question) : Prop :=
  one.name.SameName other.name ∧ one.kind = other.kind ∧ one.cls = other.cls

/-- Questions that differ at most in the case of the name and in which numbers
without a mnemonic they hold. -/
def Alike (one other : Question) : Prop :=
  one.name.SameName other.name ∧
    (one.kind = other.kind ∨ (¬ one.kind.Assigned ∧ ¬ other.kind.Assigned)) ∧
    (one.cls = other.cls ∨ (¬ one.cls.Assigned ∧ ¬ other.cls.Assigned))

theorem Alike.same {one other : Question} (h : one.Alike other) (hkind : other.kind.Assigned)
    (hcls : other.cls.Assigned) : one.Same other := by
  obtain ⟨hname, hkinds, hclasses⟩ := h
  exact ⟨hname, hkinds.resolve_right fun hno => hno.2 hkind,
    hclasses.resolve_right fun hno => hno.2 hcls⟩

/-- Alike questions are those that share their keys. -/
theorem alike_iff_questionKey_eq (one other : Question) (e d c e' d' c' : Bool) :
    Cache.questionKey one e d c = Cache.questionKey other e' d' c' ↔
      one.Alike other ∧ e = e' ∧ d = d' ∧ c = c' := by
  rw [Cache.questionKey_eq_iff, RecordType.text_eq_iff, RecordClass.text_eq_iff, Alike]
  simp only [and_assoc]

end Question

namespace Resolver

/-- The entry holds what the remote server answered to an earlier request of the
traffic, and that request relates to `query`: its question by `related`, its OPT
record and flags by being the same. -/
def StemsFrom (related : Question → Question → Prop) (traffic : Traffic) (entry : Entry)
    (query : Message) : Prop :=
  ∃ answer ∈ traffic.answers, answer.request ∈ traffic.requests ∧
    acceptAnswer answer.request (.ok answer.response) = .ok entry.data ∧
    ∃ earlier asked question, Message.decode? answer.request = some earlier ∧
      earlier.header.opcode = .query ∧ earlier.questions = [asked] ∧
      query.questions = [question] ∧ related asked question ∧
      earlier.edns.isSome = query.edns.isSome ∧
      earlier.edns.any Edns.dnssecOk = query.edns.any Edns.dnssecOk ∧
      earlier.header.checkingDisabled = query.header.checkingDisabled

/-- An entry stems from a request with the same key. -/
theorem stemsFrom_alike {options : Options} {traffic : Traffic} (h : Sourced options traffic)
    {key : String} {entry : Entry} {query : Message}
    (hkey : Cache.requestKey? query = some key)
    (hstored : traffic.shared.cache.stored? key = some entry) :
    StemsFrom Question.Alike traffic entry query := by
  obtain ⟨answer, hanswer, horigin⟩ := h.entries key entry hstored
  obtain ⟨earlier, hearlier, hkeyed⟩ := Option.bind_eq_some_iff.mp horigin.keyed
  obtain ⟨asked, hopcode, hasked, rfl⟩ := Cache.requestKey?_eq_some_iff.mp hkeyed
  obtain ⟨question, _, hquestion, hsame⟩ := Cache.requestKey?_eq_some_iff.mp hkey
  obtain ⟨halike, hedns, hdnssec, hchecking⟩ :=
    (Question.alike_iff_questionKey_eq asked question _ _ _ _ _ _).mp hsame
  exact ⟨answer, hanswer, h.answers answer hanswer, horigin.accepted, earlier, asked, question,
    hearlier, hopcode, hasked, hquestion, halike, hedns, hdnssec, hchecking⟩

/-! ## A second request with the same key -/

/-- What is kept for a first request answers a second one with the same key. -/
theorem exists_answeredFromCache {options : Options} {request second data reply : Bytes}
    {around : Surroundings} {key : String} (query other : Message) (lifetime : Duration)
    (hquery : Message.decode? request = some query) (hkey : Cache.requestKey? query = some key)
    (haccepted : acceptAnswer request (around.remote request) = .ok data)
    (hlasting : (Message.decode? data).bind (Message.lifetime? options.lifetimes) =
      some lifetime)
    (hother : Message.decode? second = some other) (hsame : Cache.requestKey? other = some key)
    (hlives : lifetime ≠ 0) (hage : Message.age data 0 other = .ok reply) :
    ∃ moves, (Traffic.run options .start moves).requests = [request] ∧
      AnsweredFromCache options around (Traffic.run options .start moves).shared second key := by
  obtain ⟨moves, hshared, hcalls⟩ :=
    Traffic.exists_moves_handle options .start request around
  refine ⟨moves, by rw [Traffic.requests, hcalls]; rfl, ?_⟩
  have hfound := lookup_second hquery hkey haccepted hlasting hlives
  rw [hshared]
  exact answeredFromCache_of_hit hother hsame hfound hage

/-- The response to a request for the records of type `kind` of the name `a.`: one
record of four bytes. -/
def typeResponse (id kind : UInt8) : Bytes :=
  [0, id, 129, 128, 0, 1, 0, 1, 0, 0, 0, 0, 1, 97, 0, 0, kind, 0, 1,
    192, 12, 0, kind, 0, 1, 0, 0, 1, 44, 0, 4, kind, kind, kind, kind]

/-- A remote server that answers every request with one response. -/
def answering (response : Bytes) : Surroundings where
  now := 0
  remote := fun _ => .ok response

/-! ## Provenance -/

/-- **Where an answer from the cache comes from.**  The entry that answers a
request stems from an earlier request with an alike question, and from one with
the same question if type and class of the request have mnemonics.  Alike
questions cannot be kept apart: they share their keys. -/
theorem cache_answer_provenance (options : Options) (moves : List Move) (around : Surroundings)
    (request : Bytes) (key : String)
    (hanswered : AnsweredFromCache options around (Traffic.run options .start moves).shared
      request key) :
    (∃ query entry, Message.decode? request = some query ∧
      (Traffic.run options .start moves).shared.cache.get around.now key = some entry ∧
      StemsFrom Question.Alike (Traffic.run options .start moves) entry query ∧
      ((∀ question ∈ query.questions, question.kind.Assigned ∧ question.cls.Assigned) →
        StemsFrom Question.Same (Traffic.run options .start moves) entry query)) ∧
      ∀ (one other : Question) (e d c e' d' c' : Bool),
        Cache.questionKey one e d c = Cache.questionKey other e' d' c' ↔
          one.Alike other ∧ e = e' ∧ d = d' ∧ c = c' := by
  refine ⟨?_, Question.alike_iff_questionKey_eq⟩
  obtain ⟨query, hit, hquery, hkey, hlookup⟩ := exists_hit_of_answeredFromCache hanswered
  obtain ⟨entry, hget, _⟩ := exists_entry_of_lookup hlookup
  have hstems := stemsFrom_alike (run_sourced options moves) hkey (stored_of_get hget)
  refine ⟨query, entry, hquery, hget, hstems, fun hassigned => ?_⟩
  obtain ⟨answer, hanswer, hcall, haccepted, earlier, asked, question, hearlier, hopcode, hasked,
    hquestion, halike, hflags⟩ := hstems
  have hmnemonics := hassigned question (hquestion ▸ List.mem_singleton_self question)
  exact ⟨answer, hanswer, hcall, haccepted, earlier, asked, question, hearlier, hopcode, hasked,
    hquestion, halike.same hmnemonics.1 hmnemonics.2, hflags⟩

/-- A second request of type A gets the response to the first one. -/
theorem cache_answer_provenance_address :
    ∃ moves query entry, (Traffic.run wideOptions .start moves).requests = [typeRequest 1 1] ∧
      Message.decode? (typeRequest 2 1) = some query ∧
      StemsFrom Question.Same (Traffic.run wideOptions .start moves) entry query := by
  obtain ⟨moves, hrequests, hanswered⟩ := @exists_answeredFromCache wideOptions (typeRequest 1 1)
    (typeRequest 2 1) (typeResponse 1 1) _ (answering (typeResponse 1 1))
    (Cache.questionKey (typeQuestion 1) false false false) (typeQuery 1 1) (typeQuery 2 1)
    (seconds 300) (by cbv) rfl rfl (by cbv) (by cbv) rfl (by decide) (by cbv)
  obtain ⟨query, entry, hquery, _, _, hsame⟩ :=
    (cache_answer_provenance wideOptions moves _ _ _ hanswered).1
  refine ⟨moves, query, entry, hrequests, hquery, hsame ?_⟩
  have hdecoded : Message.decode? (typeRequest 2 1) = some (typeQuery 2 1) := by cbv
  rw [hdecoded] at hquery
  obtain rfl := Option.some.inj hquery
  decide

/-- The response to a request of type 3 answers a request of type 4, which asked
another question: both types are written "Unknown" in the key. -/
theorem not_stemsFrom_same :
    ∃ moves key, (Traffic.run wideOptions .start moves).requests = [typeRequest 1 3] ∧
      AnsweredFromCache wideOptions (answering (typeResponse 1 3))
        (Traffic.run wideOptions .start moves).shared (typeRequest 2 4) key ∧
      ¬ ∃ query entry, Message.decode? (typeRequest 2 4) = some query ∧
        StemsFrom Question.Same (Traffic.run wideOptions .start moves) entry query := by
  have hkey : Cache.requestKey? (typeQuery 2 4) =
      some (Cache.questionKey (typeQuestion 3) false false false) := by
    refine congrArg some ((Question.alike_iff_questionKey_eq _ _ _ _ _ _ _ _).mpr ?_)
    exact ⟨⟨rfl, Or.inr (by decide), Or.inl rfl⟩, rfl, rfl, rfl⟩
  have hdecoded : Message.decode? (typeRequest 2 4) = some (typeQuery 2 4) := by cbv
  have hfirst : Message.decode? (typeRequest 1 3) = some (typeQuery 1 3) := by cbv
  obtain ⟨moves, hrequests, hanswered⟩ := @exists_answeredFromCache wideOptions (typeRequest 1 3)
    (typeRequest 2 4) (typeResponse 1 3) _ (answering (typeResponse 1 3)) _ (typeQuery 1 3)
    (typeQuery 2 4) (seconds 300) hfirst rfl rfl (by cbv) hdecoded hkey (by decide) (by cbv)
  refine ⟨moves, _, hrequests, hanswered, ?_⟩
  rintro ⟨query, entry, hquery, answer, _, hcame, _, earlier, asked, question, hearlier, _,
    hasked, hquestion, ⟨_, hkinds, _⟩, _⟩
  obtain rfl := Option.some.inj (hdecoded.symm.trans hquery)
  -- the only request so far is the one of type 3
  rw [hrequests] at hcame
  rw [List.mem_singleton.mp hcame] at hearlier
  obtain rfl := Option.some.inj (hfirst.symm.trans hearlier)
  obtain rfl := List.singleton_inj.mp hasked
  obtain rfl := List.singleton_inj.mp hquestion
  exact absurd hkinds (by decide)

end Resolver

end DnsForwarder
