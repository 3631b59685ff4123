import DnsForwarder.Proofs.Resolver.Hits

/-!
# Which question a kept response answers

A response is kept under the key of the request that it was given to.  What may be kept has a
question, but nobody compares that with the question of the request, and nobody asks whether
the message is a response at all.  So an entry answers its key (`Message.AnswersKey`) exactly
if the remote server repeats the question, and if it does not, a later request gets the records
of another question below its own one (`not_answersKey_other`).

`kept_questions` says this of every run.  An entry that answers its key is handed out only for
the question it was given for, as far as keys can tell questions apart.
-/

namespace DnsForwarder

/-- The message is a response to a single question, and that is the one the key spells. -/
def Message.AnswersKey (message : Message) (key : String) : Prop :=
  message.header.response = true ∧ ∃ question e d c,
    message.questions = [question] ∧ key = Cache.questionKey question e d c

/-- The message is a response to a single question, and that is like this one. -/
def Message.Repeats (message : Message) (asked : Question) : Prop :=
  message.header.response = true ∧
    ∃ question, message.questions = [question] ∧ question.Alike asked

theorem Message.answersKey_iff {message : Message} {asked : Question} {e d c : Bool} :
    message.AnswersKey (Cache.questionKey asked e d c) ↔ message.Repeats asked := by
  refine and_congr_right fun _ => ⟨?_, ?_⟩
  · rintro ⟨question, e', d', c', hquestion, hkey⟩
    obtain ⟨halike, _⟩ := (Question.alike_iff_questionKey_eq _ _ _ _ _ _ _ _).mp hkey.symm
    exact ⟨question, hquestion, halike⟩
  · rintro ⟨question, hquestion, halike⟩
    have hkey := (Question.alike_iff_questionKey_eq question asked e d c e d c).mpr
      ⟨halike, rfl, rfl, rfl⟩
    exact ⟨question, e, d, c, hquestion, hkey.symm⟩

namespace Resolver

/-- The entry holds the answer to a standard query whose only question the key spells. -/
structure GivenFor (traffic : Traffic) (key : String) (entry : Entry) (asked : Question)
    (message : Message) : Prop where
  given : ∃ answer ∈ traffic.answers, answer.request ∈ traffic.requests ∧
    acceptAnswer answer.request (.ok answer.response) = .ok entry.data ∧
    ∃ query, Message.decode? answer.request = some query ∧ query.header.opcode = .query ∧
      query.questions = [asked] ∧
      key = Cache.questionKey asked query.edns.isSome (query.edns.any Edns.dnssecOk)
        query.header.checkingDisabled
  holds : Message.decode? entry.data = some message
  asks : message.questions ≠ []

theorem Sourced.givenFor {options : Options} {traffic : Traffic} (h : Sourced options traffic)
    {key : String} {entry : Entry} (hstored : traffic.shared.cache.stored? key = some entry) :
    ∃ asked message, GivenFor traffic key entry asked message := by
  obtain ⟨answer, hanswer, horigin⟩ := h.entries key entry hstored
  obtain ⟨query, hquery, hkey⟩ := Option.bind_eq_some_iff.mp horigin.keyed
  obtain ⟨asked, hopcode, hasked, hspelled⟩ := Cache.requestKey?_eq_some_iff.mp hkey
  obtain ⟨message, hholds⟩ := h.holds hstored
  exact ⟨asked, message,
    ⟨answer, hanswer, h.answers answer hanswer, horigin.accepted, query, hquery, hopcode, hasked,
      hspelled⟩,
    hholds.reads, hholds.asked⟩

theorem GivenFor.answersKey_iff {traffic : Traffic} {key : String} {entry : Entry}
    {asked : Question} {message : Message} (h : GivenFor traffic key entry asked message) :
    message.AnswersKey key ↔ message.Repeats asked := by
  obtain ⟨_, _, _, _, _, _, _, _, rfl⟩ := h.given
  exact Message.answersKey_iff

/-- **Which question a kept response answers.**  After any moves every entry holds the answer to
a standard query with a single question, the one that its key spells, and the entry answers its
key exactly if the answer repeats that question.  A request that is answered from the cache gets
its own question back; if the entry answers its key, it was given for a question like this one,
and for the same one if type and class have mnemonics. -/
theorem kept_questions (options : Options) (moves : List Move) :
    (∀ key entry, (Traffic.run options .start moves).shared.cache.stored? key = some entry →
      ∃ asked message, GivenFor (Traffic.run options .start moves) key entry asked message ∧
        (message.AnswersKey key ↔ message.Repeats asked)) ∧
    ∀ around request key,
      AnsweredFromCache options around (Traffic.run options .start moves).shared request key →
      ∃ query question entry message response served,
        Message.decode? request = some query ∧ query.questions = [question] ∧
        (Traffic.run options .start moves).shared.cache.get around.now key = some entry ∧
        Message.decode? entry.data = some message ∧
        Message.age entry.data (entry.age around.now) query = .ok response ∧
        Message.decode? response = some served ∧ served.questions = [question] ∧
        (message.AnswersKey key → message.Repeats question ∧
          (question.kind.Assigned → question.cls.Assigned →
            ∃ given, message.questions = [given] ∧ given.Same question)) := by
  have hsourced := run_sourced options moves
  refine ⟨?_, ?_⟩
  · intro key entry hstored
    obtain ⟨asked, message, hgiven⟩ := hsourced.givenFor hstored
    exact ⟨asked, message, hgiven, hgiven.answersKey_iff⟩
  · intro around request key hanswered
    obtain ⟨query, entry, message, response, hfound⟩ := exists_found hsourced hanswered
    obtain ⟨question, _, hquestion, hkey⟩ := Cache.requestKey?_eq_some_iff.mp hfound.keyed
    obtain ⟨served, hserved, hleft⟩ := hfound.exists_served
    refine ⟨query, question, entry, message, response, served, hfound.reads, hquestion, hfound.got,
      hfound.holds, hfound.ages, hserved, hleft.questions.trans hquestion, ?_⟩
    intro hanswers
    rw [hkey, Message.answersKey_iff] at hanswers
    refine ⟨hanswers, fun hkind hcls => ?_⟩
    obtain ⟨_, given, hgiven, halike⟩ := hanswers
    exact ⟨given, hgiven, halike.same hkind hcls⟩

/-- A response that repeats its question answers its key, and so the question of a later request
with that key. -/
theorem kept_questions_address :
    ∃ moves entry message question, (Traffic.run wideOptions .start moves).requests =
        [typeRequest 1 1] ∧
      (Traffic.run wideOptions .start moves).shared.cache.stored? addressKey = some entry ∧
      Message.decode? entry.data = some message ∧ message.AnswersKey addressKey ∧
      AnsweredFromCache wideOptions (answering (typeResponse 1 1))
        (Traffic.run wideOptions .start moves).shared (typeRequest 2 1) addressKey ∧
      message.Repeats question := by
  obtain ⟨moves, hrequests, hcache, hworking, _⟩ :=
    exists_moves_address decode?_addressRequest rfl decode?_addressResponse rfl (by decide)
  have hstored : (Traffic.run wideOptions .start moves).shared.cache.stored? addressKey =
      some ⟨typeResponse 1 1, 0, seconds 300⟩ := by
    rw [hcache, Cache.stored?, List.lookup_cons_self]
  have hanswered := @answeredFromCache_address (answering (typeResponse 1 1)) _ _ _ hcache hworking
    (by decide) (by cbv)
  have hanswers : (addressReply .letter).AnswersKey addressKey :=
    Message.answersKey_iff.mpr ⟨rfl, typeQuestion 1, rfl, rfl, Or.inl rfl, Or.inl rfl⟩
  obtain ⟨query, question, entry, message, _, _, _, _, hget, hmessage, _, _, _, hserves⟩ :=
    (kept_questions wideOptions moves).2 _ _ _ hanswered
  obtain rfl := Option.some.inj (hstored.symm.trans (stored_of_get hget))
  obtain rfl := Option.some.inj (decode?_addressResponse.symm.trans hmessage)
  exact ⟨moves, _, _, question, hrequests, hstored, hmessage, hanswers, hanswered,
    (hserves hanswers).1⟩

/-- The address of `b.`, as the response to a request for the one of `a.`. -/
def otherResponse : Bytes :=
  [0, 1, 129, 128, 0, 1, 0, 1, 0, 0, 0, 0, 1, 98, 0, 0, 1, 0, 1,
    192, 12, 0, 1, 0, 1, 0, 0, 1, 44, 0, 4, 1, 1, 1, 1]

/-- It is kept all the same, and answers the next request for the address of `a.`. -/
theorem not_answersKey_other :
    ∃ moves entry message, (Traffic.run wideOptions .start moves).requests = [typeRequest 1 1] ∧
      (Traffic.run wideOptions .start moves).shared.cache.stored? addressKey = some entry ∧
      Message.decode? entry.data = some message ∧ ¬ message.AnswersKey addressKey ∧
      AnsweredFromCache wideOptions (answering otherResponse)
        (Traffic.run wideOptions .start moves).shared (typeRequest 2 1) addressKey := by
  have hother : Message.decode? otherResponse = some (addressReply ⟨[[98]], by decide⟩) := by cbv
  obtain ⟨moves, hrequests, hcache, hworking, _⟩ :=
    exists_moves_address decode?_addressRequest rfl hother rfl (by decide)
  have hstored : (Traffic.run wideOptions .start moves).shared.cache.stored? addressKey =
      some ⟨otherResponse, 0, seconds 300⟩ := by
    rw [hcache, Cache.stored?, List.lookup_cons_self]
  have hanswered := @answeredFromCache_address (answering otherResponse) _ _ _ hcache hworking
    (by decide) (by cbv)
  refine ⟨moves, _, _, hrequests, hstored, hother, ?_, hanswered⟩
  rw [addressKey, typeKey, Message.answersKey_iff]
  rintro ⟨_, question, hquestion, hname, _⟩
  obtain rfl := List.singleton_inj.mp hquestion
  revert hname
  decide

end Resolver

end DnsForwarder
