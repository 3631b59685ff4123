import DnsForwarder.Proofs.Cache.Key
import DnsForwarder.Proofs.Message.Aging
import DnsForwarder.Proofs.Message.Shortening
import DnsForwarder.Proofs.Resolver.Sequence

/-!
# With and without a cache

The same requests are handled twice, once with a cache in memory and once with the
disabled cache.  If the remote server treats requests with the same key alike
(`Follows`), each request gets the same in both runs, up to what the cache does to a
response on purpose (`Message.Echoes`): seconds that have passed are gone from the
TTLs, and some names have lost their case.

Only requests whose response had to be shortened in one of the runs are left out.
The kept response may be longer than the original or shorter, so one of them may fit
into the client's buffer and the other may not.  It may even be too large for any message;
then the client gets what is left of it (`Message.LeftOf`).

## Strategy

Both runs are followed side by side.  `Parallel` says what every entry of the cache
has to do with the outcome of its key; a request preserves it, and given it, a request
has agreeing replies.  The replies of a request that is forwarded in both runs are
equal, because they do not depend on the cache.  If it is answered from the cache,
both replies read as the same content, addressed to the same request.
-/

namespace DnsForwarder

/-- A record as the remote server gave it and as it comes out of the cache. -/
structure Record.Echoes (fresh cached : Record) : Prop where
  owner : cached.owner = fresh.owner
  kind : cached.kind = fresh.kind
  cls : cached.cls = fresh.cls
  ttl : cached.ttl.toNat ≤ fresh.ttl.toNat
  data : DataKept fresh.kind fresh.data cached.data

theorem Record.Ages.echoes {elapsed : Duration} {fresh cached : Record}
    (h : fresh.Ages elapsed cached) : fresh.Echoes cached :=
  ⟨h.owner, h.kind, h.cls, by rw [h.ttl]; exact Nat.sub_le _ _, h.data⟩

namespace Message

/-- A message as the remote server gave it and as it comes out of the cache. -/
structure Echoes (fresh cached : Message) : Prop where
  header : cached.header = fresh.header
  responseCode : cached.responseCode = fresh.responseCode
  questions : cached.questions = fresh.questions
  edns : cached.edns = fresh.edns
  answers : List.Forall₂ Record.Echoes fresh.answers cached.answers
  authorities : List.Forall₂ Record.Echoes fresh.authorities cached.authorities
  additionals : List.Forall₂ Record.Echoes fresh.additionals cached.additionals
  plain : ∀ record ∈ fresh.additionals, record.kind ≠ .opt

/-- The content with the ID and the questions of a request. -/
def addressed (content query : Message) : Message :=
  { content with
    header := { content.header with id := query.header.id }
    questions := query.questions }

theorem echoes_carried_aged {query asked content : Message} (elapsed : Duration)
    (hreadable : (content.addressed query).Readable) :
    (content.addressed query).Echoes (aged elapsed query (content.addressed asked)).carried := by
  obtain ⟨hanswers, hauthorities, hadditionals⟩ := hreadable.ages elapsed query
  exact ⟨rfl, rfl, rfl, rfl, hanswers.imp fun _ _ h => h.echoes,
    hauthorities.imp fun _ _ h => h.echoes, hadditionals.imp fun _ _ h => h.echoes,
    hreadable.additionals⟩

end Message

namespace Resolver

open Wire

/-! ## Remote servers that go by the key -/

/-- What a remote server makes of the requests with one key. -/
inductive Outcome
  | fails
  /-- A response that cannot be read. -/
  | garbled
  | answers (content : Message)

/-- The remote server treats all requests with one key alike.  When a response counts
as one that cannot be read is left open. -/
def Follows (unreadable : Bytes → Bytes → Prop) (outcome : String → Outcome)
    (remote : Bytes → Except Fault Bytes) : Prop :=
  ∀ request query key, Message.decode? request = some query →
    Cache.requestKey? query = some key →
    match outcome key with
    | .fails => ∃ fault, remote request = .error fault
    | .garbled => ∃ data, remote request = .ok data ∧ unreadable request data
    | .answers content => ∃ data, remote request = .ok data ∧
      Message.decode? data = some (content.addressed query)

/-- The response cannot be read as it came. -/
def UnreadableAsSent (_ data : Bytes) : Prop := Message.decode? data = none

/-- The response cannot be read with the ID of the request in its first two bytes. -/
def UnreadableAsReply (request data : Bytes) : Prop :=
  Message.decode? (request.take 2 ++ data.drop 2) = none

/-! ## Agreement -/

/-- Both replies are missing, or they have the same bytes, or they read as messages
that agree, as far as the one from the cache can travel. -/
def SameReply (fresh cached : Option Bytes) : Prop :=
  fresh = cached ∨ ∃ one other, fresh = some one ∧ cached = some other ∧
    ∃ message echo rest, Message.decode? one = some message ∧ Message.decode? other = some rest ∧
      message.Echoes echo ∧ echo.LeftOf rest

def Agrees (fresh cached : Handled) : Prop :=
  fresh.shortened = false → cached.shortened = false → SameReply fresh.reply cached.reply

/-- What is shared in the two runs: one has no cache, and what the other keeps has the
content that the remote server gives for the key. -/
structure Parallel (outcome : String → Outcome) (fresh cached : Shared) : Prop where
  disabled : fresh.cache = .disabled
  entries : ∀ key entry, cached.cache.stored? key = some entry → ∃ content asked,
    outcome key = .answers content ∧ Message.decode? entry.data = some (content.addressed asked)

variable {options : Options} {outcome : String → Outcome} {fresh cached : Shared}
  {around : Surroundings} {request : Bytes}

/-- A response that is kept has the content that its key has. -/
theorem content_of_accepted (hremote : Follows UnreadableAsReply outcome around.remote)
    {query message : Message} {key : String} {data : Bytes}
    (hquery : Message.decode? request = some query) (hkey : Cache.requestKey? query = some key)
    (haccepted : acceptAnswer request (around.remote request) = .ok data)
    (hmessage : Message.decode? data = some message) :
    ∃ content, outcome key = .answers content ∧
      Message.decode? data = some (content.addressed query) := by
  have hfollows := hremote request query key hquery hkey
  obtain ⟨_, sent, hsent, _, hdata⟩ := acceptAnswer_eq_ok_iff.mp haccepted
  cases houtcome : outcome key with
  | fails =>
      simp only [houtcome] at hfollows
      obtain ⟨fault, hfault⟩ := hfollows
      rw [hsent] at hfault
      cases hfault
  | garbled =>
      simp only [houtcome] at hfollows
      obtain ⟨other, hother, hunreadable⟩ := hfollows
      cases hsent.symm.trans hother
      rw [UnreadableAsReply, ← hdata, hmessage] at hunreadable
      cases hunreadable
  | answers content =>
      simp only [houtcome] at hfollows
      obtain ⟨other, hother, hcontent⟩ := hfollows
      rw [hother, acceptAnswer_of_decode? hquery hcontent rfl] at haccepted
      cases haccepted
      exact ⟨content, rfl, hcontent⟩

theorem Parallel.handleOne (hremote : Follows UnreadableAsReply outcome around.remote)
    (h : Parallel outcome fresh cached) (request : Bytes) :
    Parallel outcome (handleOne options around fresh request).2
      (handleOne options around cached request).2 := by
  refine ⟨Action.run_disabled _ around h.disabled, fun key entry hstored => ?_⟩
  rcases stored_handle hstored with hold | ⟨query, message, hquery, hkey, haccepted, hmessage⟩
  · exact h.entries key entry hold
  · obtain ⟨content, houtcome, hcontent⟩ :=
      content_of_accepted hremote hquery hkey haccepted hmessage
    exact ⟨content, query, houtcome, hcontent⟩

theorem agrees_of_reply_eq {fresh cached : Handled} (h : fresh.reply = cached.reply) :
    Agrees fresh cached :=
  fun _ _ => Or.inl h

/-- A request that is answered from the cache in one run and by the remote server in
the other. -/
theorem agrees_of_hit (hremote : Follows UnreadableAsReply outcome around.remote)
    (h : Parallel outcome fresh cached) {query : Message} {key : String} {hit : Hit}
    {reply : Bytes} (hquery : Message.decode? request = some query)
    (hkey : Cache.requestKey? query = some key)
    (hlookup : cached.lookup around.now key = .ok (some hit))
    (hage : Message.age hit.data hit.age query = .ok reply) :
    Agrees (handleOne options around fresh request).1
      (handleOne options around cached request).1 := by
  obtain ⟨entry, hget, rfl⟩ := exists_entry_of_lookup hlookup
  obtain ⟨content, asked, houtcome, hkept⟩ := h.entries key entry (stored_of_get hget)
  have hfollows := hremote request query key hquery hkey
  simp only [houtcome] at hfollows
  obtain ⟨data, hsent, hfresh⟩ := hfollows
  have haccepted : acceptAnswer request (around.remote request) = .ok data := by
    rw [hsent]
    exact acceptAnswer_of_decode? hquery hfresh rfl
  have hecho := Message.decode?_of_age hkept (Message.decode?_readable hquery) hage
  have hfreshFitted := @fitted_of_miss options request around fresh _ _ _ hquery hkey
    (Shared.lookup_disabled h.disabled around.now key) haccepted
  have hcachedFitted := @fitted_of_hit options request around cached _ _ _ _ hquery hkey
    hlookup hage
  -- there is one question, so both responses can be shortened
  obtain ⟨question, _, hquestion, _⟩ := Cache.requestKey?_eq_some_iff.mp hkey
  have hshort : ∀ response message, Message.decode? response = some message →
      message.questions = query.questions →
      ∃ shortened, Message.truncateFor (replyLimit options query) response = .ok shortened := by
    intro response message hresponse hsame
    refine Message.exists_truncateFor hresponse _ ?_
    rw [hsame, hquestion]
    exact Nat.le_add_left 1 251
  obtain ⟨whole, hwhole⟩ : ∃ whole, Message.aged (entry.age around.now) query
    (content.addressed asked) = whole := ⟨_, rfl⟩
  have hleft := whole.carried_leftOf
  rw [hwhole] at hecho
  intro hfreshWhole hcachedWhole
  have hdata : data.length ≤ replyLimit options query := by
    by_contra hlong
    have hshortened := hfreshFitted.shortened hlong (hshort data _ hfresh rfl)
    exact Bool.noConfusion (hfreshWhole.symm.trans hshortened)
  have hreply : reply.length ≤ replyLimit options query := by
    by_contra hlong
    have hquestions : whole.trimmed.carried.questions = query.questions := by
      rw [hleft.questions, ← hwhole]
      rfl
    have hshortened := hcachedFitted.shortened hlong (hshort reply _ hecho hquestions)
    exact Bool.noConfusion (hcachedWhole.symm.trans hshortened)
  have hechoes : (content.addressed query).Echoes whole.carried := by
    rw [← hwhole]
    exact Message.echoes_carried_aged _ (Message.decode?_readable hfresh)
  rw [hfreshFitted.whole hdata, hcachedFitted.whole hreply]
  exact Or.inr ⟨data, reply, rfl, rfl, _, _, _, hfresh, hecho, hechoes, hleft⟩

/-- One request has agreeing replies in both runs. -/
theorem agrees_handleOne (hremote : Follows UnreadableAsReply outcome around.remote)
    (h : Parallel outcome fresh cached) (request : Bytes) :
    Agrees (handleOne options around fresh request).1
      (handleOne options around cached request).1 := by
  rcases handle_cases options request with hpath | ⟨query, _, hpath⟩ |
    ⟨query, key, hquery, hkey, _⟩
  · refine agrees_of_reply_eq ?_
    simp only [handleOne, hpath]
    rfl
  · -- without a lookup the reply does not depend on what is shared
    refine agrees_of_reply_eq ?_
    simp only [handleOne, hpath]
    exact (forward_blind options request query none).run_eq around _ _
  · by_cases hhit : ∃ hit reply, cached.lookup around.now key = .ok (some hit) ∧
        Message.age hit.data hit.age query = .ok reply
    · obtain ⟨hit, reply, hlookup, hage⟩ := hhit
      exact agrees_of_hit hremote h hquery hkey hlookup hage
    · -- forwarded in both runs
      refine agrees_of_reply_eq ?_
      have hfresh := @reply_of_forwarded options request around fresh _ _ hquery hkey
        (fun hit _ hlookup => absurd hlookup (Shared.lookup_disabled h.disabled _ _ hit)) fresh
      have hcached := @reply_of_forwarded options request around cached _ _ hquery hkey
        (fun hit reply hlookup hage => hhit ⟨hit, reply, hlookup, hage⟩) fresh
      exact hfresh.trans hcached.symm

/-- **A cache does not show.**  Handled with a cache in memory and without a cache,
the same requests get replies that agree, apart from those whose response had to be
shortened in one of the runs. -/
theorem handleAll_agrees (options : Options) (remote : Bytes → Except Fault Bytes)
    (outcome : String → Outcome) (hremote : Follows UnreadableAsReply outcome remote)
    (requests : List (Instant × Bytes)) :
    List.Forall₂ Agrees (handleAll options remote { cache := .disabled } requests)
      (handleAll options remote { cache := .emptyMemory } requests) := by
  have hrun : ∀ fresh cached, Parallel outcome fresh cached →
      List.Forall₂ Agrees (handleAll options remote fresh requests)
        (handleAll options remote cached requests) := by
    induction requests with
    | nil => exact fun fresh cached _ => .nil
    | cons entry requests ih =>
        intro fresh cached h
        exact .cons (agrees_handleOne hremote h entry.2) (ih _ _ (h.handleOne hremote entry.2))
  refine hrun _ _ ⟨rfl, fun key entry hstored => ?_⟩
  cases hstored

/-- A response to any question: the address 1.2.3.4. -/
def fixedContent : Message where
  header := .replying 0
  questions := []
  answers := [⟨.root, .a, ⟨1⟩, 300, some (.address [1, 2, 3, 4])⟩]
  authorities := []
  additionals := []
  edns := none

/-- A remote server that answers every request it can read with this content. -/
def fixedRemote (request : Bytes) : Except Fault Bytes :=
  match Message.decode? request with
  | none => .error .undecodable
  | some query =>
    match (fixedContent.addressed query).encode? with
    | none => .error .unencodable
    | some out => .ok out

theorem fixedRemote_follows :
    Follows UnreadableAsReply (fun _ => .answers fixedContent) fixedRemote := by
  intro request query key hquery hkey
  obtain ⟨question, _, hquestions, _⟩ := Cache.requestKey?_eq_some_iff.mp hkey
  have hreadable : (fixedContent.addressed query).Readable := by
    refine ⟨(Message.decode?_readable hquery).questionCount, show 1 < 65536 by decide,
      show 0 < 65536 by decide, show 0 < 65536 by decide, fun record hrecord => ?_,
      fun record hrecord => ?_, fun edns hedns => ?_⟩
    · obtain rfl := List.mem_singleton.mp hrecord
      refine ⟨?_, by decide, by decide⟩
      rintro data ⟨⟩
      exact Or.inl ⟨rfl, rfl⟩
    · cases hrecord
    · cases hedns
  have hsize : ((fixedContent.addressed query).write.run 0 []).1.length ≤
      Message.largestSize := by
    have hrecord : ((fixedContent.addressed query).write.run 0 []).1.length =
        ((Writer.concat (query.questions.map Question.write)).behind
          ⟨Datagram.headerLength, []⟩).offset + 15 := Message.length_write _
    have hquestion := Message.offset_behind_questions_le query.questions
      ⟨Datagram.headerLength, []⟩
    rw [hrecord, Message.largestSize]
    rw [hquestions, List.length_singleton] at hquestion
    rw [hquestions]
    exact Nat.le_trans (Nat.add_le_add_right hquestion 15) (by decide)
  have hencode := Message.encode?_of_length_le hsize
  have hread := Message.decode?_of_encode? hreadable hencode
  rw [Message.trimmed_of_length_le hsize] at hread
  refine ⟨_, ?_, hread⟩
  simp only [fixedRemote, hquery, hencode]

/-- Two requests, the second of which is answered from the cache in one run. -/
theorem handleAll_agrees_fixed :
    List.Forall₂ Agrees
      (handleAll wideOptions fixedRemote { cache := .disabled }
        [(0, typeRequest 1 1), (seconds 60, typeRequest 2 1)])
      (handleAll wideOptions fixedRemote { cache := .emptyMemory }
        [(0, typeRequest 1 1), (seconds 60, typeRequest 2 1)]) :=
  handleAll_agrees wideOptions fixedRemote (fun _ => .answers fixedContent) fixedRemote_follows _

/-- A response without the ID of its request, whose names are pointers to this ID. -/
def pointingResponse (hi lo address : UInt8) : Bytes :=
  [hi, lo, 129, 128, 0, 1, 0, 1, 0, 0, 0, 0, 192, 0, 0, 1, 0, 1,
    192, 0, 0, 1, 0, 1, 0, 0, 1, 44, 0, 4, address, address, address, address]

/-- A remote server whose responses cannot be read as they come. -/
def pointingRemote (request : Bytes) : Except Fault Bytes :=
  .ok (pointingResponse 255 255 (request.getD 1 0))

/-- It does not suffice that a response cannot be read as it came: it may be readable
with the ID of its request, and then it is kept and answers the next request. -/
theorem not_agrees_as_sent :
    Follows UnreadableAsSent (fun _ => .garbled) pointingRemote ∧
      ¬ List.Forall₂ Agrees
        (handleAll wideOptions pointingRemote { cache := .disabled }
          [(0, typeRequest 1 1), (0, typeRequest 2 1)])
        (handleAll wideOptions pointingRemote { cache := .emptyMemory }
          [(0, typeRequest 1 1), (0, typeRequest 2 1)]) := by
  refine ⟨fun request query key _ _ => ⟨_, rfl, by rw [UnreadableAsSent]; cbv⟩, fun hagrees => ?_⟩
  obtain ⟨_, hrest⟩ := List.forall₂_cons.mp hagrees
  obtain ⟨hsecond, _⟩ := List.forall₂_cons.mp hrest
  have hfirst : Message.decode? (typeRequest 1 1) = some (typeQuery 1 1) := by cbv
  have hquery : Message.decode? (typeRequest 2 1) = some (typeQuery 2 1) := by cbv
  have hlookup := @lookup_second wideOptions (typeRequest 1 1)
    { now := 0, remote := pointingRemote } _ _ (pointingResponse 0 1 1) (seconds 300) hfirst rfl
    rfl (by cbv) (by decide)
  have hage : Message.age (pointingResponse 0 1 1) 0 (typeQuery 2 1) =
      .ok [0, 2, 129, 128, 0, 1, 0, 1, 0, 0, 0, 0, 1, 97, 0, 0, 1, 0, 1,
        0, 0, 1, 0, 1, 0, 0, 1, 44, 0, 4, 1, 1, 1, 1] := by cbv
  have hcached := (@fitted_of_hit wideOptions (typeRequest 2 1)
    { now := 0, remote := pointingRemote } _ _ _ _ _ hquery rfl hlookup hage).whole (by decide)
  have hdisabled := Action.run_disabled (handle wideOptions (typeRequest 1 1))
    { now := 0, remote := pointingRemote } (show Shared.cache { cache := .disabled } = _ from rfl)
  have hfresh := (@fitted_of_miss wideOptions (typeRequest 2 1)
    { now := 0, remote := pointingRemote } _ _ _ (pointingResponse 0 2 2) hquery rfl
    (Shared.lookup_disabled hdisabled 0 _) rfl).whole (by decide)
  have hfreshReply := congrArg Handled.reply hfresh
  have hcachedReply := congrArg Handled.reply hcached
  rcases hsecond (congrArg Handled.shortened hfresh) (congrArg Handled.shortened hcached) with
    hsame | ⟨one, other, hone, hother, message, echo, rest, hmessage, hrest, hechoes, hleft⟩
  · exact absurd (hfreshReply.symm.trans (hsame.trans hcachedReply)) (by decide)
  · cases hfreshReply.symm.trans hone
    cases hcachedReply.symm.trans hother
    have hroot : (Message.decode? (pointingResponse 0 2 2)).map Message.questions =
        some [⟨.root, ⟨1⟩, ⟨1⟩⟩] := by cbv
    have hasked : (Message.decode? [0, 2, 129, 128, 0, 1, 0, 1, 0, 0, 0, 0, 1, 97, 0, 0, 1, 0, 1,
        0, 0, 1, 0, 1, 0, 0, 1, 44, 0, 4, 1, 1, 1, 1]).map Message.questions =
        some [typeQuestion 1] := by cbv
    rw [hmessage] at hroot
    rw [hrest] at hasked
    have hquestions := congrArg some (hleft.questions.trans hechoes.questions)
    exact absurd (hasked.symm.trans (hquestions.trans hroot)) (by decide)

end Resolver

end DnsForwarder
