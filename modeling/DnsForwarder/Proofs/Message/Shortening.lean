import DnsForwarder.Message.Fit
import DnsForwarder.Proofs.Message.RoundTrip

/-!
# Shortened messages

A shortened message has no records, so nothing but its questions and its extension is written,
and it has a written form if the questions are few (`exists_truncateFor`).  So a response that
answers a single question can always be shortened.  What a client reads in it is
`truncateFor_spec`.

Nothing bounds the questions and the options of a message, so a shortened message may
still be large.  It fits into the smallest payload if the message is `Slim`
(`length_shortened_le_smallestPayload`).
-/

namespace DnsForwarder

open Wire

namespace Message

theorem shortened_readable {message : Message} (h : message.Readable) :
    message.shortened.Readable := by
  refine ⟨h.questionCount, by simp [shortened], by simp [shortened], ?_, ?_, ?_, h.edns⟩
  · refine Nat.lt_of_le_of_lt ?_ h.additionalCount
    simp [shortened, allAdditionals]
  · exact fun _ hrecord => absurd hrecord List.not_mem_nil
  · exact fun _ hrecord => absurd hrecord List.not_mem_nil

/-! ## How large a shortened message is -/

theorem length_write_opt (edns : Edns) (offset : Nat) (known : Suffixes) :
    (edns.toRecord.write.run offset known).1.length = 11 + edns.options.write.length := by
  simp [Record.write, Edns.toRecord, Writer.run_append, Writer.word, Writer.long, Writer.bytes,
    Writer.sized, Name.write, Name.root, writeLabels, RecordData.write]
  omega

/-- At most one question, and options that leave room for it in the smallest payload. -/
def Slim (message : Message) : Prop :=
  message.questions.length ≤ 1 ∧ ∀ edns ∈ message.edns, edns.options.write.length ≤ 230

theorem length_shortened_le_smallestPayload {message : Message} (h : message.Slim) :
    (message.shortened.write.run 0 []).1.length ≤ smallestPayload := by
  obtain ⟨hsingle, hoptions⟩ := h
  obtain ⟨place, hplace⟩ : ∃ place, (Writer.concat (message.questions.map Question.write)).behind
    ⟨Datagram.headerLength, []⟩ = place := ⟨_, rfl⟩
  have hquestions : place.offset ≤ 12 + 259 * message.questions.length :=
    hplace ▸ offset_behind_questions_le message.questions ⟨Datagram.headerLength, []⟩
  have hopt : ((Writer.concat ((message.edns.map Edns.toRecord).toList.map Record.write)).behind
      place).offset ≤ place.offset + 241 := by
    cases hedns : message.edns with
    | none => exact Nat.le_add_right _ _
    | some edns =>
        have hroom := hoptions edns hedns
        have hlength := length_write_opt edns place.offset place.known
        rw [Option.map_some, Option.toList_some, List.map_singleton, Writer.concat, Writer.concat,
          Writer.append_nothing, Writer.offset_behind]
        omega
  rw [length_write, smallestPayload]
  change ((Writer.concat ((message.edns.map Edns.toRecord).toList.map Record.write)).behind
    ((Writer.concat (message.questions.map Question.write)).behind
      ⟨Datagram.headerLength, []⟩)).offset ≤ 512
  rw [hplace]
  omega

/-! ## What can be shortened -/

/-- A response that is too large becomes the written form of its shortened message. -/
theorem truncateFor_eq_ok_iff {response out : Bytes} {limit : Nat}
    (hlong : limit < response.length) :
    truncateFor limit response = .ok out ↔
      ∃ message, decode? response = some message ∧ message.shortened.encode? = some out := by
  rw [truncateFor, if_neg (Nat.not_le.mpr hlong)]
  cases decode? response with
  | none => simp
  | some message => cases hencode : message.shortened.encode? <;> simp [hencode]

/-- What has so few questions can be shortened. -/
theorem exists_truncateFor {response : Bytes} {message : Message}
    (hresponse : decode? response = some message) (limit : Nat)
    (hfew : message.questions.length ≤ 252) : ∃ reply, truncateFor limit response = .ok reply := by
  by_cases hfits : response.length ≤ limit
  · exact ⟨response, if_pos hfits⟩
  · obtain ⟨reply, hreply⟩ := @exists_encode? message.shortened hfew
    exact ⟨reply, (truncateFor_eq_ok_iff (Nat.lt_of_not_le hfits)).mpr
      ⟨message, hresponse, hreply⟩⟩

/-! ## What a client reads in a shortened response -/

/-- Without records there is nothing that could change on the way. -/
theorem carried_shortened (message : Message) : message.shortened.carried = message.shortened :=
  rfl

theorem decode?_shortened {message : Message} {out : Bytes} (h : message.Readable)
    (hout : message.shortened.encode? = some out) :
    decode? out = some message.shortened.trimmed := by
  rw [decode?_of_encode? (shortened_readable h) hout, ← trimmed_carried, carried_shortened]

/-- **What truncation leaves of a response.**  A response within the limit stays as it
is, readable or not.  Of a larger one the client reads the header as that of a truncated
response, the whole response code, the questions and the extension, and no record. -/
theorem truncateFor_spec (limit : Nat) (response : Bytes) :
    (response.length ≤ limit → truncateFor limit response = .ok response) ∧
      ∀ message, limit < response.length → decode? response = some message →
        (message.shortened.write.run 0 []).1.length ≤ largestSize →
        ∃ out reply, truncateFor limit response = .ok out ∧ decode? out = some reply ∧
          reply.header = { message.header with response := true, truncated := true } ∧
          reply.responseCode = message.responseCode ∧
          reply.questions = message.questions ∧
          reply.edns = message.edns ∧
          reply.answers = [] ∧ reply.authorities = [] ∧ reply.additionals = [] := by
  refine ⟨fun hfits => if_pos hfits, fun message hlong hmessage hsize => ?_⟩
  have hencode := encode?_of_length_le hsize
  have hout := (truncateFor_eq_ok_iff hlong).mpr ⟨message, hmessage, hencode⟩
  have hreply := decode?_shortened (decode?_readable hmessage) hencode
  rw [trimmed_of_length_le hsize] at hreply
  exact ⟨_, _, hout, hreply, rfl, rfl, rfl, rfl, rfl, rfl, rfl⟩

/-- A message with two questions, of which the second one ends in the name of the first
one, with an address, and with an OPT record that holds an option and the upper bits of
the response code 16. -/
def twofoldResponse : Bytes :=
  [0, 7, 5, 176, 0, 2, 0, 1, 0, 0, 0, 1, 1, 97, 0, 0, 1, 0, 1, 1, 98, 192, 12, 0, 28, 0, 1,
    192, 12, 0, 1, 0, 1, 0, 0, 1, 44, 0, 4, 1, 1, 1, 1,
    0, 0, 41, 4, 208, 1, 0, 128, 0, 0, 6, 0, 12, 0, 2, 7, 7]

def twofoldMessage : Message where
  header := ⟨7, false, .query, true, false, true, true, true, true, Header.success⟩
  questions := [⟨.letter, .a, ⟨1⟩⟩, ⟨⟨[[98], [97]], by decide⟩, .aaaa, ⟨1⟩⟩]
  answers := [⟨.letter, .a, ⟨1⟩, 300, some (.address [1, 1, 1, 1])⟩]
  authorities := []
  additionals := []
  edns := some ⟨1232, 0, 1, true, [(12, [7, 7])]⟩

/-- It is too large for 50 bytes, and without its address it still has both questions and
the whole response code. -/
theorem truncateFor_spec_twofold :
    truncateFor 60 twofoldResponse = .ok twofoldResponse ∧
      ∃ out reply, truncateFor 50 twofoldResponse = .ok out ∧ decode? out = some reply ∧
        reply.header.truncated = true ∧ reply.responseCode = 16 ∧
        reply.questions = twofoldMessage.questions ∧ reply.edns = twofoldMessage.edns ∧
        reply.answers = [] := by
  obtain ⟨out, reply, hout, hreply, hheader, hcode, hquestions, hedns, hanswers, _⟩ :=
    (truncateFor_spec 50 twofoldResponse).2 twofoldMessage (by decide) (by cbv) (by cbv)
  refine ⟨(truncateFor_spec 60 twofoldResponse).1 (by decide), out, reply, hout, hreply, ?_, ?_,
    hquestions, hedns, hanswers⟩
  · rw [hheader]
  · rw [hcode]
    rfl

end Message

end DnsForwarder
