import DnsForwarder.Message.Lifetime
import DnsForwarder.Proofs.Message.RoundTrip

/-!
# What a kept response becomes

`age` reads a kept response, edits it and writes it again.  `age_spec` says what a
client reads in the result: its own ID and its own questions, and otherwise the kept
response with fewer seconds left on each record.

The edit keeps a message readable (`aged_readable`), so the round trip of messages
applies to its result.  What a record may lose on the way is `Record.DataKept`.

A kept response may have grown too large for any message, since it gets other questions
and its names are written anew.  It is aged nevertheless (`exists_age`), and the client
reads what is left of it (`decode?_of_age`).
-/

namespace DnsForwarder

namespace Record

/-- The data before and after it was written and read again.  Names that are written
in lowercase come back so, and an OPT record without options comes back without
data. -/
inductive DataKept : RecordType → Option RecordData → Option RecordData → Prop
  | same (kind : RecordType) (data : Option RecordData) : DataKept kind data data
  | aname (name : Name) :
    DataKept .aname (some (.aname name)) (some (.aname name.lower))
  | service (priority weight socket : UInt16) (target : Name) :
    DataKept .srv (some (.service priority weight socket target))
      (some (.service priority weight socket target.lower))
  | noOptions : DataKept .opt (some (.options [])) none

/-- A kept record and what a client reads of it when `elapsed` has passed. -/
structure Ages (elapsed : Duration) (kept reply : Record) : Prop where
  owner : reply.owner = kept.owner
  kind : reply.kind = kept.kind
  cls : reply.cls = kept.cls
  ttl : reply.ttl.toNat = kept.ttl.toNat - wholeSeconds elapsed
  data : DataKept kept.kind kept.data reply.data

theorem dataKept_carried {kind : RecordType} {data : Option RecordData}
    (hfits : ∀ given ∈ data, given.Fits kind) :
    DataKept kind data (data.bind RecordData.carried) := by
  cases data with
  | none => exact .same kind none
  | some data =>
      have hfits := hfits data rfl
      by_cases hnil : data = .options []
      · subst hnil
        obtain ⟨rfl, _⟩ := hfits
        exact .noOptions
      · simp only [Option.bind_some, RecordData.carried, if_neg hnil]
        cases data with
        | aname name =>
            cases hfits
            exact .aname name
        | service priority weight socket target =>
            cases hfits
            exact .service priority weight socket target
        | _ => exact .same kind _

theorem ages_carried_aged {record : Record} (hfits : ∀ given ∈ record.data, given.Fits record.kind)
    (elapsed : Duration) : record.Ages elapsed (record.aged elapsed).carried := by
  refine ⟨rfl, rfl, rfl, ?_, dataKept_carried hfits⟩
  have hbound := record.ttl.toNat_lt
  change (UInt32.ofNat (record.ttl.toNat - wholeSeconds elapsed)).toNat = _
  rw [UInt32.toNat_ofNat']
  omega

theorem aged_readable {record : Record} (h : record.Readable) (elapsed : Duration) :
    (record.aged elapsed).Readable :=
  ⟨h.fits, h.owner, h.payload⟩

end Record

namespace Message

/-- The edit leaves a readable message. -/
theorem aged_readable {request kept : Message} (hkept : kept.Readable)
    (hrequest : request.Readable) (elapsed : Duration) :
    (aged elapsed request kept).Readable := by
  refine ⟨hrequest.questionCount, ?_, ?_, ?_, fun record hrecord => ?_, fun record hrecord => ?_,
    hkept.edns⟩
  · simpa [aged] using hkept.answerCount
  · simpa [aged] using hkept.authorityCount
  · simpa [aged, allAdditionals] using hkept.additionalCount
  · simp only [aged, records, ← List.map_append] at hrecord
    obtain ⟨old, hold, rfl⟩ := List.mem_map.mp hrecord
    exact Record.aged_readable (hkept.records old hold) elapsed
  · obtain ⟨old, hold, rfl⟩ := List.mem_map.mp hrecord
    exact hkept.additionals old hold

/-- What a client reads of the records of a kept message. -/
theorem Readable.ages {kept : Message} (h : kept.Readable) (elapsed : Duration)
    (request : Message) :
    List.Forall₂ (Record.Ages elapsed) kept.answers (aged elapsed request kept).carried.answers ∧
      List.Forall₂ (Record.Ages elapsed) kept.authorities
        (aged elapsed request kept).carried.authorities ∧
      List.Forall₂ (Record.Ages elapsed) kept.additionals
        (aged elapsed request kept).carried.additionals := by
  have hsection : ∀ records : List Record, (∀ record ∈ records, record ∈ kept.records) →
      List.Forall₂ (Record.Ages elapsed) records
        ((records.map (Record.aged elapsed)).map Record.carried) := by
    intro records hrecords
    rw [List.map_map, List.forall₂_map_right_iff, List.forall₂_same]
    intro record hrecord
    exact Record.ages_carried_aged (h.records record (hrecords record hrecord)).fits elapsed
  refine ⟨?_, ?_, ?_⟩
  · exact hsection kept.answers fun record hrecord => by simp [Message.records, hrecord]
  · exact hsection kept.authorities fun record hrecord => by simp [Message.records, hrecord]
  · exact hsection kept.additionals fun record hrecord => by simp [Message.records, hrecord]

theorem exists_kept_of_age {data out : Bytes} {request : Message} {elapsed : Duration}
    (h : age data elapsed request = .ok out) : ∃ kept, decode? data = some kept := by
  cases hkept : decode? data with
  | none =>
      rw [age, hkept] at h
      cases h
  | some kept => exact ⟨kept, rfl⟩

/-- A response that can be read can be aged for every request with so few questions. -/
theorem exists_age {data : Bytes} {kept request : Message} (hkept : decode? data = some kept)
    (elapsed : Duration) (hfew : request.questions.length ≤ 252) :
    ∃ out, age data elapsed request = .ok out := by
  obtain ⟨out, hout⟩ := @exists_encode? (aged elapsed request kept) hfew
  exact ⟨out, by simp only [age, hkept, hout]⟩

theorem age_of_length_le {data : Bytes} {kept request : Message} {elapsed : Duration}
    (hkept : decode? data = some kept)
    (hfits : ((aged elapsed request kept).write.run 0 []).1.length ≤ largestSize) :
    age data elapsed request = .ok ((aged elapsed request kept).write.run 0 []).1 := by
  simp only [age, hkept, encode?_of_length_le hfits]

theorem encode?_of_age {data out : Bytes} {kept request : Message} {elapsed : Duration}
    (hkept : decode? data = some kept) (h : age data elapsed request = .ok out) :
    (aged elapsed request kept).encode? = some out := by
  simp only [age, hkept] at h
  cases hencode : (aged elapsed request kept).encode? with
  | none =>
      rw [hencode] at h
      cases h
  | some bytes =>
      rw [hencode] at h
      cases h
      rfl

theorem decode?_of_age {data out : Bytes} {kept request : Message} {elapsed : Duration}
    (hkept : decode? data = some kept) (hrequest : request.Readable)
    (h : age data elapsed request = .ok out) :
    decode? out = some (aged elapsed request kept).trimmed.carried :=
  decode?_of_encode? (aged_readable (decode?_readable hkept) hrequest elapsed)
    (encode?_of_age hkept h)

/-- What is read of an aged response is what is left of it when it is written. -/
theorem exists_leftOf_of_age {data out : Bytes} {kept request : Message} {elapsed : Duration}
    (hkept : decode? data = some kept) (hrequest : request.Readable)
    (h : age data elapsed request = .ok out) :
    ∃ rest, decode? out = some rest ∧ (aged elapsed request kept).carried.LeftOf rest :=
  ⟨_, decode?_of_age hkept hrequest h, carried_leftOf _⟩

/-- **What a client reads in a kept response.**  It gets the ID and the questions of
its own request.  Header, response code and extension are those of the kept
response, and so are the records, in their sections and in their order, each with
the whole seconds that have passed taken off its TTL. -/
theorem age_spec {data asked : Bytes} {kept request : Message} (elapsed : Duration)
    (hkept : decode? data = some kept) (hrequest : decode? asked = some request)
    (hfits : ((aged elapsed request kept).write.run 0 []).1.length ≤ largestSize) :
    ∃ out reply, age data elapsed request = .ok out ∧ decode? out = some reply ∧
      reply.header = { kept.header with id := request.header.id } ∧
      reply.questions = request.questions ∧
      reply.responseCode = kept.responseCode ∧
      reply.edns = kept.edns ∧
      List.Forall₂ (Record.Ages elapsed) kept.answers reply.answers ∧
      List.Forall₂ (Record.Ages elapsed) kept.authorities reply.authorities ∧
      List.Forall₂ (Record.Ages elapsed) kept.additionals reply.additionals ∧
      ∀ record ∈ kept.additionals, record.kind ≠ .opt := by
  have hreadable := decode?_readable hkept
  have hage := age_of_length_le hkept hfits
  have hreply := decode?_of_age hkept (decode?_readable hrequest) hage
  rw [trimmed_of_length_le hfits] at hreply
  obtain ⟨hanswers, hauthorities, hadditionals⟩ := hreadable.ages elapsed request
  exact ⟨_, _, hage, hreply, rfl, rfl, rfl, rfl, hanswers, hauthorities, hadditionals,
    hreadable.additionals⟩

/-- A response with a service record, whose target is the name `B.`, and with an OPT
record. -/
def serviceResponse : Bytes :=
  [0, 1, 129, 128, 0, 1, 0, 1, 0, 0, 0, 1, 1, 97, 0, 0, 33, 0, 1,
    192, 12, 0, 33, 0, 1, 0, 0, 1, 44, 0, 9, 0, 1, 0, 2, 0, 53, 1, 66, 0,
    0, 0, 41, 4, 208, 0, 0, 128, 0, 0, 0]

/-- A request for the service records of the name `A.`. -/
def serviceRequest : Bytes :=
  [0, 2, 1, 0, 0, 1, 0, 0, 0, 0, 0, 0, 1, 65, 0, 0, 33, 0, 1]

def serviceReply : Message where
  header := .replying 1
  questions := [⟨.letter, .srv, ⟨1⟩⟩]
  answers := [⟨.letter, .srv, ⟨1⟩, 300, some (.service 1 2 53 ⟨[[66]], by decide⟩)⟩]
  authorities := []
  additionals := []
  edns := some ⟨1232, 0, 0, true, []⟩

def serviceQuery : Message where
  header := .asking 2
  questions := [⟨⟨[[65]], by decide⟩, .srv, ⟨1⟩⟩]
  answers := []
  authorities := []
  additionals := []
  edns := none

/-- After a minute the service record has a minute less. -/
theorem age_spec_service :
    ∃ out reply, age serviceResponse (seconds 60) serviceQuery = .ok out ∧
      decode? out = some reply ∧ reply.questions = serviceQuery.questions ∧
      reply.edns = serviceReply.edns ∧
      reply.answers.map (fun record => record.ttl.toNat) = [240] := by
  obtain ⟨out, reply, hage, hreply, _, hquestions, _, hedns, hanswers, _⟩ :=
    @age_spec serviceResponse serviceRequest serviceReply serviceQuery (seconds 60) (by cbv)
      (by cbv) (by cbv)
  refine ⟨out, reply, hage, hreply, hquestions, hedns, ?_⟩
  obtain ⟨record, rest, hrecord, hrest, hreplies⟩ := List.forall₂_cons_left_iff.mp hanswers
  rw [List.forall₂_nil_left_iff.mp hrest] at hreplies
  rw [hreplies, List.map_singleton, hrecord.ttl]
  rfl

end Message

end DnsForwarder
