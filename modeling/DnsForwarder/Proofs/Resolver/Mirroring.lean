import DnsForwarder.Proofs.Resolver.Hits

/-!
# What a reply repeats of the header of its request

A reply should have the opcode of its request and tell whether that asked for recursion.  A
refusal copies both.  A kept response has what the remote server copied into it, and that was
copied from the request it answered first: the key fixes the opcode, so there is no difference,
but it does not fix the wish for recursion.  So an answer from the cache repeats the wish of the
request whose answer was kept (`replies_mirror`), and `not_mirrors_iterative` is a case where that
is not the one of the client.

The bits are taken from the bytes, so what is said of them holds of messages that cannot be read.
-/

namespace DnsForwarder

namespace Datagram

/-- The byte that holds the opcode and the wish for recursion. -/
def flags? : Bytes → Option UInt8
  | _ :: _ :: flags :: _ => some flags
  | _ => none

def opcode? (data : Bytes) : Option Nat := (flags? data).map fun flags => flags.toNat / 8 % 16

/-- Whether recursion is desired. -/
def wish? (data : Bytes) : Option Bool := (flags? data).map fun flags => flags.toNat.testBit 0

/-- The reply has the opcode of the request, and the wish for recursion. -/
structure Mirrors (request reply : Bytes) : Prop where
  opcode : opcode? reply = opcode? request
  wish : wish? reply = wish? request

theorem refusalFlags_spec (flags : UInt8) :
    (refusalFlags flags).toNat / 8 % 16 = flags.toNat / 8 % 16 ∧
      (refusalFlags flags).toNat.testBit 0 = flags.toNat.testBit 0 := by
  have hflags : (refusalFlags flags).toNat =
      128 + flags.toNat / 8 % 16 * 8 + flags.toNat % 2 := by
    rw [refusalFlags, UInt8.toNat_ofNat']
    omega
  rw [hflags, Nat.testBit_zero, Nat.testBit_zero]
  refine ⟨by omega, ?_⟩
  congr 2
  omega

theorem mirrors_refusal {request reply : Bytes} (h : refusal request = .ok reply) :
    Mirrors request reply := by
  unfold refusal at h
  split at h
  · rename_i flags _
    split at h
    · cases h
    · obtain rfl := Except.ok.inj h
      obtain ⟨hopcode, hwish⟩ := refusalFlags_spec flags
      exact ⟨congrArg some hopcode, congrArg some hwish⟩
  · cases h

end Datagram

open Datagram

theorem Opcode.number_of_ofNumber? {number : Nat} {opcode : Opcode}
    (h : ofNumber? number = some opcode) : opcode.number = number := by
  unfold ofNumber? at h
  split at h <;> cases h <;> rfl

/-- The bits of a message that can be read. -/
theorem Message.flags_of_decode? {data : Bytes} {message : Message}
    (h : decode? data = some message) :
    opcode? data = some message.header.opcode.number ∧
      wish? data = some message.header.recursionDesired := by
  obtain ⟨⟨high, low, counts, hdata, _, hflags⟩, _⟩ := Message.decode?_spec h
  obtain ⟨opcode, hopcode, hheader⟩ := Option.map_eq_some_iff.mp hflags
  have hbyte : flags? data = some high := by
    rw [hdata]
    rfl
  rw [opcode?, wish?, hbyte, ← hheader]
  exact ⟨congrArg some (Opcode.number_of_ofNumber? hopcode).symm, rfl⟩

namespace Resolver

variable {options : Options} {request : Bytes}

/-- An accepted answer has the bits that the remote server gave it. -/
theorem flags?_of_acceptAnswer {response data : Bytes}
    (h : acceptAnswer request (.ok response) = .ok data) :
    headerLength ≤ response.length ∧ flags? data = flags? response := by
  obtain ⟨hrequest, given, hgiven, hlong, rfl⟩ := acceptAnswer_eq_ok_iff.mp h
  obtain rfl := Except.ok.inj hgiven
  refine ⟨hlong, ?_⟩
  match request, response with
  | _ :: _ :: _, _ :: _ :: _ :: _ => rfl
  | [], _ => simp at hrequest
  | [_], _ => simp at hrequest
  | _, [] => simp [headerLength] at hlong
  | _, [_] => simp [headerLength] at hlong
  | _, [_, _] => simp [headerLength] at hlong

variable {traffic : Traffic} {around : Surroundings} {key : String}

/-- The remote server copies the bits of what it is asked into its answers. -/
def Copied (answers : List Answer) : Prop :=
  ∀ answer ∈ answers, headerLength ≤ answer.response.length →
    Mirrors answer.request answer.response

/-- `answer` was given to an earlier request with this key. -/
def Earlier (traffic : Traffic) (key : String) (answer : Answer) : Prop :=
  answer ∈ traffic.answers ∧ answer.request ∈ traffic.requests ∧
    (Message.decode? answer.request).bind Cache.requestKey? = some key

/-- What was kept of an answer has the bits of the request that was answered. -/
theorem header_of_accepted {answer : Answer} {data : Bytes} {kept : Message}
    (hcopied : Copied traffic.answers) (hanswer : answer ∈ traffic.answers)
    (haccepted : acceptAnswer answer.request (.ok answer.response) = .ok data)
    (hkept : Message.decode? data = some kept) :
    opcode? answer.request = some kept.header.opcode.number ∧
      wish? answer.request = some kept.header.recursionDesired := by
  obtain ⟨hlong, hflags⟩ := flags?_of_acceptAnswer haccepted
  obtain ⟨hmirrorOpcode, hmirrorWish⟩ := hcopied answer hanswer hlong
  obtain ⟨hkeptOpcode, hkeptWish⟩ := Message.flags_of_decode? hkept
  rw [opcode?, hflags] at hkeptOpcode
  rw [wish?, hflags] at hkeptWish
  exact ⟨hmirrorOpcode.symm.trans hkeptOpcode, hmirrorWish.symm.trans hkeptWish⟩

/-- An answer from the cache has the opcode of the request, and the wish of every request whose
answer was accepted as what the entry holds. -/
theorem reply_of_answeredFromCache (hsourced : Sourced options traffic)
    (hcopied : Copied traffic.answers)
    (h : AnsweredFromCache options around traffic.shared request key) :
    ∃ reply entry, ((handle options request).run around traffic.shared).1 = some reply ∧
      traffic.shared.cache.get around.now key = some entry ∧ opcode? reply = opcode? request ∧
      ∀ answer ∈ traffic.answers,
        acceptAnswer answer.request (.ok answer.response) = .ok entry.data →
        wish? reply = wish? answer.request := by
  obtain ⟨query, entry, kept, response, hfound⟩ := exists_found hsourced h
  obtain ⟨reply, message, served, hreply, hleft, hserved, hcases⟩ := hfound.exists_reply
  have hheader : served.header.opcode = kept.header.opcode ∧
      served.header.recursionDesired = kept.header.recursionDesired := by
    have hmessage := hleft.header
    rcases hcases with rfl | ⟨_, hshort⟩
    · rw [hmessage]
      exact ⟨rfl, rfl⟩
    · have hserved := hshort.header
      rw [Message.shortened, hmessage] at hserved
      rw [hserved]
      exact ⟨rfl, rfl⟩
  obtain ⟨hreplyOpcode, hreplyWish⟩ := Message.flags_of_decode? hserved
  rw [hheader.1] at hreplyOpcode
  rw [hheader.2] at hreplyWish
  refine ⟨reply, entry, hreply, hfound.got, ?_, fun answer hanswer haccepted => ?_⟩
  · -- the request that was answered first has the key, too, so both are standard queries
    obtain ⟨answer, hanswer, _, horigin⟩ := hfound.origin
    obtain ⟨earlier, hearlier, hkey⟩ := Option.bind_eq_some_iff.mp horigin.keyed
    obtain ⟨_, hstandard, _⟩ := Cache.requestKey?_eq_some_iff.mp hkey
    obtain ⟨_, hown, _⟩ := Cache.requestKey?_eq_some_iff.mp hfound.keyed
    calc
      opcode? reply = some kept.header.opcode.number := hreplyOpcode
      _ = opcode? answer.request :=
        (header_of_accepted hcopied hanswer horigin.accepted hfound.holds).1.symm
      _ = some Opcode.query.number := by
        rw [(Message.flags_of_decode? hearlier).1, hstandard]
      _ = opcode? request := by rw [(Message.flags_of_decode? hfound.reads).1, hown]
  · rw [hreplyWish, (header_of_accepted hcopied hanswer haccepted hfound.holds).2]

/-! ## Where a reply comes from -/

/-- The reply is what the remote server has just answered, whole or shortened. -/
def Fresh (options : Options) (around : Surroundings) (request reply : Bytes) : Prop :=
  ∃ data, acceptAnswer request (around.remote request) = .ok data ∧
    (reply = data ∨ ∃ query, Message.decode? request = some query ∧
      Message.truncateFor (replyLimit options query) data = .ok reply)

variable {shared : Shared} {reply : Bytes}

theorem refusal_of_refuse (h : ((refuse options request).run around shared).1 = some reply) :
    refusal request = .ok reply := by
  rcases refuse_cases options request with hnone | ⟨refused, hrefused, hrefuse⟩
  · rw [hnone] at h
    cases h
  · rw [hrefuse] at h
    obtain rfl := Option.some.inj h
    exact hrefused

theorem source_of_forward {query : Option Message} {key : Option String}
    (hquery : Message.decode? request = query)
    (h : ((forward options request query key).run around shared).1 = some reply) :
    refusal request = .ok reply ∨ Fresh options around request reply := by
  cases haccepted : acceptAnswer request (around.remote request) with
  | error fault =>
      simp only [forward, Action.run, haccepted] at h
      exact Or.inl (refusal_of_refuse h)
  | ok data =>
      obtain ⟨after, _, hresult, _⟩ := @run_forward options request around shared query key data
        haccepted
      rw [hresult] at h
      rcases fit_cases options request query data with
        ⟨_, hfit⟩ | ⟨asked, hasked, _, ⟨shortened, hshortened, hfit⟩ | ⟨_, hfit⟩⟩
      · rw [hfit] at h
        obtain rfl := Option.some.inj h
        exact Or.inr ⟨data, haccepted, Or.inl rfl⟩
      · rw [hfit] at h
        obtain rfl := Option.some.inj h
        exact Or.inr ⟨data, haccepted, Or.inr ⟨asked, hquery.trans hasked, hshortened⟩⟩
      · rw [hfit] at h
        exact Or.inl (refusal_of_refuse h)

/-- A reply that is not fresh comes from the cache, or is a refusal. -/
theorem source_of_handle
    (h : ((handle options request).run around shared).1 = some reply) :
    (∃ key, AnsweredFromCache options around shared request key) ∨
      refusal request = .ok reply ∨ Fresh options around request reply := by
  rcases handle_cases options request with hpath | ⟨query, hquery, hpath⟩ |
    ⟨query, key, hquery, hkey, _⟩
  · rw [hpath] at h
    cases h
  · rw [hpath] at h
    exact Or.inr (source_of_forward hquery h)
  · rw [(run_of_keyed hquery hkey).1] at h
    unfold afterLookup at h
    split at h
    · rename_i hit hlookup
      split at h
      · rename_i response hage
        exact Or.inl ⟨key, answeredFromCache_of_hit hquery hkey hlookup hage⟩
      · exact Or.inr (source_of_forward hquery h)
    · exact Or.inr (source_of_forward hquery h)

/-- **What a reply repeats of its request.**  Let the remote server copy opcode and wish for
recursion into its answers.  After any moves, a reply that is not fresh is a refusal, which
repeats both, or it comes from the cache, whole or shortened: then it repeats the opcode, and the
wish of the request for which the entry that was found had been kept, which is the wish of the
request itself if the earlier requests with this key agree with it. -/
theorem replies_mirror (options : Options) (moves : List Move) (around : Surroundings)
    (request : Bytes) (hcopied : Copied (Traffic.run options .start moves).answers) :
    (∀ reply, ((handle options request).run around
        (Traffic.run options .start moves).shared).1 = some reply →
      (∃ key, AnsweredFromCache options around (Traffic.run options .start moves).shared
        request key) ∨ refusal request = .ok reply ∨ Fresh options around request reply) ∧
    (∀ reply, refusal request = .ok reply → Mirrors request reply) ∧
    ∀ key, AnsweredFromCache options around (Traffic.run options .start moves).shared request key →
      ∃ reply entry, ((handle options request).run around
          (Traffic.run options .start moves).shared).1 = some reply ∧
        opcode? reply = opcode? request ∧
        (Traffic.run options .start moves).shared.cache.get around.now key = some entry ∧
        (∃ answer, AnswerKept options moves key entry answer) ∧
        (∀ answer, AnswerKept options moves key entry answer →
          wish? reply = wish? answer.request) ∧
        ((∀ answer, Earlier (Traffic.run options .start moves) key answer →
          wish? answer.request = wish? request) → Mirrors request reply) := by
  refine ⟨fun _ hreply => source_of_handle hreply, fun _ hrefusal => mirrors_refusal hrefusal, ?_⟩
  intro key hanswered
  have hsourced := run_sourced options moves
  obtain ⟨reply, entry, hreply, hget, hopcode, hwish⟩ :=
    reply_of_answeredFromCache hsourced hcopied hanswered
  have hkeptWish : ∀ answer, AnswerKept options moves key entry answer →
      wish? reply = wish? answer.request :=
    fun answer hkept => hwish answer hkept.heard hkept.origin.accepted
  obtain ⟨answer, hkept⟩ := exists_answer_of_stored (stored_of_get hget)
  refine ⟨reply, entry, hreply, hopcode, hget, ⟨answer, hkept⟩, hkeptWish, fun hagree => ?_⟩
  have hearlier : Earlier (Traffic.run options .start moves) key answer :=
    ⟨hkept.heard, hsourced.answers answer hkept.heard, hkept.origin.keyed⟩
  exact ⟨hopcode, (hkeptWish answer hkept).trans (hagree answer hearlier)⟩

/-- Both requests ask for recursion. -/
theorem replies_mirror_address :
    ∃ moves reply, Copied (Traffic.run wideOptions .start moves).answers ∧
      AnsweredFromCache wideOptions (answering (typeResponse 1 1))
        (Traffic.run wideOptions .start moves).shared (typeRequest 2 1) addressKey ∧
      ((handle wideOptions (typeRequest 2 1)).run (answering (typeResponse 1 1))
        (Traffic.run wideOptions .start moves).shared).1 = some reply ∧
      Mirrors (typeRequest 2 1) reply := by
  obtain ⟨moves, hrequests, hcache, hworking, hanswers⟩ :=
    exists_moves_address decode?_addressRequest rfl decode?_addressResponse rfl (by decide)
  have hcopied : Copied (Traffic.run wideOptions .start moves).answers := by
    intro answer hanswer _
    obtain ⟨hrequest, hresponse⟩ := hanswers answer hanswer
    rw [hrequest, hresponse]
    exact ⟨rfl, rfl⟩
  have hanswered := @answeredFromCache_address (answering (typeResponse 1 1)) _ _ _ hcache hworking
    (by decide) (by cbv)
  obtain ⟨_, _, hserved⟩ := replies_mirror wideOptions moves (answering (typeResponse 1 1))
    (typeRequest 2 1) hcopied
  obtain ⟨reply, entry, hreply, _, _, _, _, hmirrors⟩ := hserved addressKey hanswered
  refine ⟨moves, reply, hcopied, hanswered, hreply, hmirrors ?_⟩
  rintro answer ⟨hanswer, _⟩
  rw [(hanswers answer hanswer).1]
  rfl

/-- A request that does not ask for recursion. -/
def iterativeRequest : Bytes := [0, 1, 0, 0, 0, 1, 0, 0, 0, 0, 0, 0, 1, 97, 0, 0, 1, 0, 1]

def iterativeQuery : Message :=
  { typeQuery 1 1 with header := { Header.asking 1 with recursionDesired := false } }

/-- The response to it, from a server that copies opcode and wish. -/
def iterativeResponse : Bytes :=
  [0, 1, 128, 128, 0, 1, 0, 1, 0, 0, 0, 0, 1, 97, 0, 0, 1, 0, 1,
    192, 12, 0, 1, 0, 1, 0, 0, 1, 44, 0, 4, 1, 1, 1, 1]

def iterativeReply : Message :=
  { addressReply .letter with header := { Header.replying 1 with recursionDesired := false } }

/-- The next request asks for recursion, and its reply says that it does not. -/
theorem not_mirrors_iterative :
    ∃ moves reply, (Traffic.run wideOptions .start moves).requests = [iterativeRequest] ∧
      Copied (Traffic.run wideOptions .start moves).answers ∧
      AnsweredFromCache wideOptions (answering iterativeResponse)
        (Traffic.run wideOptions .start moves).shared (typeRequest 2 1) addressKey ∧
      ((handle wideOptions (typeRequest 2 1)).run (answering iterativeResponse)
        (Traffic.run wideOptions .start moves).shared).1 = some reply ∧
      ¬ Mirrors (typeRequest 2 1) reply := by
  have hquery : Message.decode? iterativeRequest = some iterativeQuery := by cbv
  have hkept : Message.decode? iterativeResponse = some iterativeReply := by cbv
  obtain ⟨moves, hrequests, hcache, hworking, hanswers⟩ :=
    exists_moves_address hquery rfl hkept rfl (by decide)
  have hcopied : Copied (Traffic.run wideOptions .start moves).answers := by
    intro answer hanswer _
    obtain ⟨hrequest, hresponse⟩ := hanswers answer hanswer
    rw [hrequest, hresponse]
    exact ⟨rfl, rfl⟩
  have hanswered := @answeredFromCache_address (answering iterativeResponse) _ _ _ hcache hworking
    (by decide) (by cbv)
  obtain ⟨reply, entry, hreply, hget, _, hwish⟩ :=
    reply_of_answeredFromCache (run_sourced wideOptions moves) hcopied hanswered
  obtain ⟨answer, hanswer⟩ := exists_answer_of_stored (stored_of_get hget)
  refine ⟨moves, reply, hrequests, hcopied, hanswered, hreply, fun hmirrors => ?_⟩
  have hdiffers : wish? iterativeRequest = wish? (typeRequest 2 1) := by
    rw [← (hanswers answer hanswer.heard).1, ← hwish answer hanswer.heard hanswer.origin.accepted,
      hmirrors.wish]
  revert hdiffers
  decide

end Resolver

end DnsForwarder
