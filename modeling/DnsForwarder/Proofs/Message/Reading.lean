import DnsForwarder.Datagram
import DnsForwarder.Proofs.Record.RoundTrip

/-!
# What reading a message gives

`Message.Readable` collects what is true of every message that was read: its parts
are no more than a count can say, and each of them is one that reading can give
(`decode?_readable`).  It makes no reference to the bytes, so it survives changes
to a message that keep its parts readable.

The header stands in the first twelve bytes (`headerLength_le_of_decode?`), the ID in
the first two of them (`take_of_decode?`).
-/

namespace DnsForwarder

open Wire

namespace Wire.Cursor

theorem word_eq_some {cursor after : Cursor} {value : UInt16}
    (h : cursor.word = some (value, after)) :
    ∃ hi lo, cursor.rest = hi :: lo :: after.rest ∧ value = word16 hi lo := by
  obtain ⟨offset, rest⟩ := cursor
  match rest with
  | [] => cases h
  | [_] => cases h
  | hi :: lo :: rest =>
      cases h
      exact ⟨hi, lo, rfl, rfl⟩

theorem octet_eq_some {cursor after : Cursor} {value : UInt8}
    (h : cursor.octet = some (value, after)) : cursor.rest = value :: after.rest := by
  obtain ⟨offset, rest⟩ := cursor
  match rest with
  | [] => cases h
  | byte :: rest =>
      cases h
      rfl

end Wire.Cursor

/-! ## Lists of parts -/

theorem readMany_succ {Part : Type} (read : Cursor → Option (Part × Cursor)) (count : Nat)
    (cursor : Cursor) :
    readMany read (count + 1) cursor = (read cursor).bind fun (part, behind) =>
      (readMany read count behind).bind fun (parts, after) => some (part :: parts, after) := by
  rw [readMany]
  cases read cursor with
  | none => rfl
  | some found =>
      obtain ⟨part, behind⟩ := found
      dsimp only [Option.bind_some]
      cases readMany read count behind <;> rfl

theorem forall_of_readMany {Part : Type} {read : Cursor → Option (Part × Cursor)} {count : Nat}
    {cursor after : Cursor} {parts : List Part}
    (h : readMany read count cursor = some (parts, after)) {goal : Part → Prop}
    (hread : ∀ cursor part behind, read cursor = some (part, behind) → goal part) :
    parts.length = count ∧ ∀ part ∈ parts, goal part := by
  induction count generalizing cursor parts with
  | zero =>
      cases h
      exact ⟨rfl, by simp⟩
  | succ count ih =>
      rw [readMany_succ] at h
      obtain ⟨⟨part, behind⟩, hpart, h⟩ := Option.bind_eq_some_iff.mp h
      obtain ⟨⟨others, behind⟩, hothers, h⟩ := Option.bind_eq_some_iff.mp h
      cases h
      obtain ⟨hlength, hgoal⟩ := ih hothers
      refine ⟨by rw [List.length_cons, hlength], fun other hother => ?_⟩
      rcases List.mem_cons.mp hother with rfl | hother
      · exact hread _ _ _ hpart
      · exact hgoal other hother

namespace Message

/-! ## Messages -/

/-- A message that reading can give. -/
structure Readable (message : Message) : Prop where
  questionCount : message.questions.length < 65536
  answerCount : message.answers.length < 65536
  authorityCount : message.authorities.length < 65536
  additionalCount : message.allAdditionals.length < 65536
  records : ∀ record ∈ message.records, record.Readable
  additionals : ∀ record ∈ message.additionals, record.kind ≠ .opt
  edns : ∀ edns ∈ message.edns, edns.Readable

/-- A message that was read begins with a whole header, which begins with the ID and the
flags, and its parts are readable. -/
theorem decode?_spec {data : Bytes} {message : Message} (h : decode? data = some message) :
    (∃ high low counts, data = bytes16 message.header.id ++ high :: low :: counts ∧
        8 ≤ counts.length ∧ Header.ofFlags? message.header.id high low = some message.header) ∧
      message.Readable := by
  obtain ⟨⟨id, _⟩, hid, h⟩ := Option.bind_eq_some_iff.mp h
  obtain ⟨⟨high, _⟩, hhigh, h⟩ := Option.bind_eq_some_iff.mp h
  obtain ⟨⟨low, behind⟩, hlow, h⟩ := Option.bind_eq_some_iff.mp h
  obtain ⟨header, hheader, h⟩ := Option.bind_eq_some_iff.mp h
  obtain ⟨⟨questionCount, _⟩, hquestionCount, h⟩ := Option.bind_eq_some_iff.mp h
  obtain ⟨⟨answerCount, _⟩, hanswerCount, h⟩ := Option.bind_eq_some_iff.mp h
  obtain ⟨⟨authorityCount, _⟩, hauthorityCount, h⟩ := Option.bind_eq_some_iff.mp h
  obtain ⟨⟨additionalCount, _⟩, hadditionalCount, h⟩ := Option.bind_eq_some_iff.mp h
  obtain ⟨⟨questions, _⟩, hquestions, h⟩ := Option.bind_eq_some_iff.mp h
  obtain ⟨⟨answers, _⟩, hanswers, h⟩ := Option.bind_eq_some_iff.mp h
  obtain ⟨⟨authorities, _⟩, hauthorities, h⟩ := Option.bind_eq_some_iff.mp h
  obtain ⟨⟨additionals, _⟩, hadditionals, h⟩ := Option.bind_eq_some_iff.mp h
  obtain ⟨⟨others, edns⟩, hextract, h⟩ := Option.bind_eq_some_iff.mp h
  cases h
  constructor
  · obtain ⟨hi, lo, hfirst, rfl⟩ := Cursor.word_eq_some hid
    have hflags := hheader
    obtain ⟨opcode, _, rfl⟩ := Option.map_eq_some_iff.mp hheader
    obtain ⟨_, _, hfifth, _⟩ := Cursor.word_eq_some hquestionCount
    obtain ⟨_, _, hseventh, _⟩ := Cursor.word_eq_some hanswerCount
    obtain ⟨_, _, hninth, _⟩ := Cursor.word_eq_some hauthorityCount
    obtain ⟨_, _, heleventh, _⟩ := Cursor.word_eq_some hadditionalCount
    have hcounts : 8 ≤ behind.rest.length := by
      rw [hfifth, hseventh, hninth, heleventh]
      simp
    refine ⟨high, low, behind.rest, ?_, hcounts, hflags⟩
    calc
      data = (Cursor.into data 0).rest := rfl
      _ = hi :: lo :: high :: low :: behind.rest := by
        rw [hfirst, Cursor.octet_eq_some hhigh, Cursor.octet_eq_some hlow]
      _ = bytes16 (word16 hi lo) ++ high :: low :: behind.rest := by rw [bytes16_word16]; rfl
  · have hread : ∀ cursor record behind, Record.read data cursor = some (record, behind) →
        record.Readable := fun _ _ _ => Record.read_readable
    obtain ⟨hquestions, _⟩ := forall_of_readMany hquestions fun _ _ _ _ => trivial
    obtain ⟨hanswers, hanswersReadable⟩ := forall_of_readMany hanswers hread
    obtain ⟨hauthorities, hauthoritiesReadable⟩ := forall_of_readMany hauthorities hread
    obtain ⟨hadditionals, hadditionalsReadable⟩ := forall_of_readMany hadditionals hread
    obtain ⟨hothers, hedns, hcount⟩ := Edns.extract?_readable hadditionalsReadable hextract
    refine ⟨hquestions ▸ questionCount.toNat_lt, hanswers ▸ answerCount.toNat_lt,
      hauthorities ▸ authorityCount.toNat_lt, ?_, fun record hrecord => ?_,
      fun record hrecord => (hothers record hrecord).2, hedns⟩
    · have hlength : (edns.map Edns.toRecord).toList.length = edns.toList.length := by
        cases edns <;> rfl
      rw [allAdditionals, List.length_append, hlength, hcount, hadditionals]
      exact additionalCount.toNat_lt
    · rcases List.mem_append.mp hrecord with hrecord | hrecord
      · rcases List.mem_append.mp hrecord with hrecord | hrecord
        · exact hanswersReadable record hrecord
        · exact hauthoritiesReadable record hrecord
      · exact (hothers record hrecord).1

theorem decode?_readable {data : Bytes} {message : Message} (h : decode? data = some message) :
    message.Readable :=
  (decode?_spec h).2

/-- Only what is as long as a header can be read. -/
theorem headerLength_le_of_decode? {data : Bytes} {message : Message}
    (h : decode? data = some message) : Datagram.headerLength ≤ data.length := by
  obtain ⟨⟨high, low, counts, hdata, hcounts, _⟩, _⟩ := decode?_spec h
  rw [hdata, List.length_append, length_bytes16, List.length_cons, List.length_cons,
    Datagram.headerLength]
  omega

theorem take_of_decode? {data : Bytes} {message : Message} (h : decode? data = some message) :
    data.take 2 = bytes16 message.header.id := by
  obtain ⟨⟨high, low, counts, hdata, _⟩, _⟩ := decode?_spec h
  rw [hdata, ← length_bytes16 message.header.id, List.take_left]

end Message

/-! ## Parts of small messages

The examples of the later modules are made of these. -/

/-- The name `a.`. -/
def Name.letter : Name := ⟨[[97]], by decide⟩

namespace Header

def success : Fin 16 := ⟨Message.noError, by decide⟩

/-- The header of a request that asks for recursion. -/
def asking (id : UInt16) : Header :=
  ⟨id, false, .query, false, false, true, false, false, false, success⟩

/-- The header of a reply to it from a server that offers recursion. -/
def replying (id : UInt16) : Header :=
  ⟨id, true, .query, false, false, true, true, false, false, success⟩

end Header

end DnsForwarder
