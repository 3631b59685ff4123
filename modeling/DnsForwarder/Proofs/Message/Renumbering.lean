import DnsForwarder.Proofs.Message.Shortening

/-!
# Messages under another ID

The ID of a message is its first two bytes.  A message that is written under another ID
differs in nothing else (`encode?_withId_cases`), because no name is written with a pointer
that leads into the header.

Reading is different: nothing keeps a received name from pointing to offset 0, and then the
ID decides what the name is, or whether there is one.  So two datagrams that differ in their
ID only need not read alike, and `ReadAlike` says when they do.  If so, they are also
shortened alike (`truncateFor_inReplyTo`).
-/

namespace DnsForwarder

open Wire

namespace Datagram

/-- `data` with the ID of `request`. -/
def inReplyTo (request data : Bytes) : Bytes := request.take 2 ++ data.drop 2

variable {request data : Bytes}

theorem length_inReplyTo (hrequest : 2 ≤ request.length) (hdata : 2 ≤ data.length) :
    (inReplyTo request data).length = data.length := by
  rw [inReplyTo, List.length_append, List.length_take_of_le hrequest, List.length_drop]
  omega

theorem inReplyTo_inReplyTo {other : Bytes} (hother : 2 ≤ other.length) :
    inReplyTo request (inReplyTo other data) = inReplyTo request data := by
  rw [inReplyTo, inReplyTo, List.drop_left' (List.length_take_of_le hother), inReplyTo]

theorem take_eq_of_id {id : UInt16} (h : Datagram.id request = .ok id) :
    request.take 2 = bytes16 id := by
  match request with
  | [] => cases h
  | [_] => cases h
  | hi :: lo :: rest =>
      obtain rfl := Except.ok.inj h
      rw [bytes16_word16]
      rfl

end Datagram

namespace Message

def withId (id : UInt16) (message : Message) : Message :=
  { message with header := { message.header with id := id } }

/-- The ID is no name, so it leaves no suffix to point to. -/
theorem run_withId (message : Message) :
    ∃ body, ∀ id, ((message.withId id).write.run 0 []).1 = bytes16 id ++ body := by
  obtain ⟨rest, hwrite⟩ : ∃ rest : Writer, ∀ id, (message.withId id).write = .word id ++ rest := by
    refine ⟨.bytes [message.header.flagsHigh, message.header.flagsLow] ++
      (.word (UInt16.ofNat message.questions.length) ++
      (.word (UInt16.ofNat message.answers.length) ++
      (.word (UInt16.ofNat message.authorities.length) ++
      (.word (UInt16.ofNat message.allAdditionals.length) ++
      (.concat (message.questions.map Question.write) ++
      (.concat (message.answers.map Record.write) ++
      (.concat (message.authorities.map Record.write) ++
      .concat (message.allAdditionals.map Record.write)))))))), fun id => ?_⟩
    simp only [write, Writer.append_assoc]
    rfl
  refine ⟨(rest.run 2 []).1, fun id => ?_⟩
  rw [hwrite id, Writer.run_append]
  rfl

/-- The same is left of a message under any ID. -/
theorem trimmed_withId (message : Message) (id : UInt16) :
    (message.withId id).trimmed = message.trimmed.withId id := by
  have hlength : ((message.withId id).write.run 0 []).1.length =
      (message.write.run 0 []).1.length := by
    rw [length_write, length_write]
    rfl
  have hcut : (message.withId id).cut = message.cut.withId id := rfl
  unfold trimmed
  rw [hlength, hcut]
  split <;> rfl

/-- Whether a message has a written form does not depend on its ID, and neither does what is
written behind the ID. -/
theorem encode?_withId_cases (message : Message) :
    (∀ id, (message.withId id).encode? = none) ∨
      ∃ body, ∀ id, (message.withId id).encode? = some (bytes16 id ++ body) := by
  obtain ⟨body, hbody⟩ := run_withId message.trimmed
  by_cases hsize : 2 + body.length ≤ largestSize
  · refine Or.inr ⟨body, fun id => ?_⟩
    simp only [encode?, trimmed_withId, hbody, List.length_append, length_bytes16, hsize, if_true]
  · refine Or.inl fun id => ?_
    simp only [encode?, trimmed_withId, hbody, List.length_append, length_bytes16, hsize, if_false]

/-- Both are unreadable, or both are read as the same message but for the ID. -/
def ReadAlike (first second : Bytes) : Prop :=
  (decode? first).map (withId 0) = (decode? second).map (withId 0)

instance (first second : Bytes) : Decidable (ReadAlike first second) :=
  inferInstanceAs (Decidable (_ = _))

theorem ReadAlike.cases {first second : Bytes} (h : ReadAlike first second) :
    (decode? first = none ∧ decode? second = none) ∨
      ∃ message other, decode? first = some message ∧ decode? second = some (message.withId other)
      := by
  unfold ReadAlike at h
  cases hfirst : decode? first with
  | none =>
      rw [hfirst] at h
      exact Or.inl ⟨rfl, Option.map_eq_none_iff.mp h.symm⟩
  | some message =>
      rw [hfirst] at h
      obtain ⟨other, hother, hsame⟩ := Option.map_eq_some_iff.mp h.symm
      have hid : other = message.withId other.header.id := by
        calc
          other = (other.withId 0).withId other.header.id := rfl
          _ = (message.withId 0).withId other.header.id := by rw [hsame]
          _ = message.withId other.header.id := rfl
      exact Or.inr ⟨message, other.header.id, rfl, hid ▸ hother⟩

/-- Responses that read alike are shortened alike. -/
theorem truncateFor_inReplyTo {first second data : Bytes} (hfirst : 2 ≤ first.length)
    (hsecond : 2 ≤ second.length) (hdata : 2 ≤ data.length) (limit : Nat)
    (h : ReadAlike (Datagram.inReplyTo first data) (Datagram.inReplyTo second data)) :
    (∃ fault, truncateFor limit (Datagram.inReplyTo first data) = .error fault ∧
        truncateFor limit (Datagram.inReplyTo second data) = .error fault) ∨
      ∃ body, truncateFor limit (Datagram.inReplyTo first data) = .ok (first.take 2 ++ body) ∧
        truncateFor limit (Datagram.inReplyTo second data) = .ok (second.take 2 ++ body) := by
  have hfirstLength := Datagram.length_inReplyTo hfirst hdata
  have hsecondLength := Datagram.length_inReplyTo hsecond hdata
  by_cases hfits : data.length ≤ limit
  · refine Or.inr ⟨data.drop 2, ?_, ?_⟩
    · rw [truncateFor, if_pos (hfirstLength ▸ hfits)]
      rfl
    · rw [truncateFor, if_pos (hsecondLength ▸ hfits)]
      rfl
  rw [truncateFor, truncateFor, if_neg (hfirstLength ▸ hfits), if_neg (hsecondLength ▸ hfits)]
  rcases h.cases with ⟨hnone, hnone'⟩ | ⟨message, other, hmessage, hother⟩
  · rw [hnone, hnone']
    exact Or.inl ⟨_, rfl, rfl⟩
  · have hfirstId : first.take 2 = bytes16 message.header.id := by
      rw [← take_of_decode? hmessage, Datagram.inReplyTo,
        List.take_left' (List.length_take_of_le hfirst)]
    have hsecondId : second.take 2 = bytes16 other := by
      have htake := take_of_decode? hother
      rw [Datagram.inReplyTo, List.take_left' (List.length_take_of_le hsecond)] at htake
      exact htake
    have hshort : (message.withId other).shortened = message.shortened.withId other := rfl
    simp only [hmessage, hother, hshort, hfirstId, hsecondId]
    rcases encode?_withId_cases message.shortened with hnone | ⟨body, hbody⟩
    · have hown : message.shortened.encode? = none := hnone message.header.id
      rw [hown, hnone other]
      exact Or.inl ⟨_, rfl, rfl⟩
    · have hown : message.shortened.encode? = some (bytes16 message.header.id ++ body) :=
        hbody message.header.id
      rw [hown, hbody other]
      exact Or.inr ⟨body, rfl, rfl⟩

end Message

end DnsForwarder
