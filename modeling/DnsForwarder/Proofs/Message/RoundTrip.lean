import DnsForwarder.Proofs.Message.Cutting

/-!
# Messages read back from the wire

A readable message that has a written form reads back from it, up to what its
records lose (`decode?_of_encode?`) and to what did not fit.

The parts of a message are read in the order they are written in, so the proof is
one chain along the reader; `read` is the reader with the place where it stops,
which `decode?` leaves out.

What is read of a written message is not always the message: names were written in
lowercase, and an OPT record without options comes back without data.  Neither shows
in what is written next, as `write_carried` says for records and messages, so it
makes no difference for what fits (`trimmed_carried`).
-/

namespace DnsForwarder

open Wire

/-! ## Header -/

namespace Header

/-- The bits of the third byte. -/
theorem toNat_flagsHigh (header : Header) :
    header.flagsHigh.toNat / 8 % 16 = header.opcode.number ∧
      header.flagsHigh.toNat.testBit 7 = header.response ∧
      header.flagsHigh.toNat.testBit 2 = header.authoritative ∧
      header.flagsHigh.toNat.testBit 1 = header.truncated ∧
      header.flagsHigh.toNat.testBit 0 = header.recursionDesired := by
  obtain ⟨id, response, opcode, authoritative, truncated, recursionDesired, _⟩ := header
  simp only [flagsHigh]
  revert response authoritative truncated recursionDesired
  cases opcode <;> decide

/-- The bits of the fourth byte. -/
theorem toNat_flagsLow (header : Header) :
    header.flagsLow.toNat.testBit 7 = header.recursionAvailable ∧
      header.flagsLow.toNat.testBit 5 = header.authenticData ∧
      header.flagsLow.toNat.testBit 4 = header.checkingDisabled ∧
      Fin.ofNat 16 header.flagsLow.toNat = header.code := by
  obtain ⟨id, _, _, _, _, _, recursionAvailable, authenticData, checkingDisabled, code⟩ := header
  simp only [flagsLow]
  revert recursionAvailable authenticData checkingDisabled code
  decide

theorem ofFlags?_flags (header : Header) :
    ofFlags? header.id header.flagsHigh header.flagsLow = some header := by
  obtain ⟨hopcode, hresponse, hauthoritative, htruncated, hdesired⟩ := header.toNat_flagsHigh
  obtain ⟨havailable, hauthentic, hchecking, hcode⟩ := header.toNat_flagsLow
  rw [ofFlags?, hopcode, Opcode.ofNumber?_number, hresponse, hauthoritative, htruncated, hdesired,
    havailable, hauthentic, hchecking, hcode]
  rfl

end Header

/-! ## Lists of parts -/

theorem Wire.Faithful.many {Item Part : Type} {write : Item → Writer}
    {read : Bytes → Cursor → Option (Part × Cursor)} {carried : Item → Part}
    (items : List Item) (h : ∀ item ∈ items, Faithful (write item) read (carried item))
    {count : Nat} (hcount : count = items.length) :
    Faithful (.concat (items.map write))
      (fun message cursor => readMany (read message) count cursor) (items.map carried) := by
  subst hcount
  induction items with
  | nil => exact Faithful.pure []
  | cons item items ih =>
      have hrest := ih fun other hother => h other (List.mem_cons_of_mem item hother)
      simp only [List.length_cons, readMany_succ]
      refine (h item List.mem_cons_self).bind ?_
      dsimp only
      exact hrest.last fun _ => rfl

namespace Message

/-! ## Messages -/

/-- What is read back for a message that was written. -/
def carried (message : Message) : Message :=
  { message with
    answers := message.answers.map Record.carried
    authorities := message.authorities.map Record.carried
    additionals := message.additionals.map Record.carried }

/-- The message at a place, and the place behind it. -/
def read (data : Bytes) (cursor : Cursor) : Option (Message × Cursor) := do
  let (id, cursor) ← cursor.word
  let (high, cursor) ← cursor.octet
  let (low, cursor) ← cursor.octet
  let header ← Header.ofFlags? id high low
  let (questionCount, cursor) ← cursor.word
  let (answerCount, cursor) ← cursor.word
  let (authorityCount, cursor) ← cursor.word
  let (additionalCount, cursor) ← cursor.word
  let (questions, cursor) ← readMany (Question.read data) questionCount.toNat cursor
  let (answers, cursor) ← readMany (Record.read data) answerCount.toNat cursor
  let (authorities, cursor) ← readMany (Record.read data) authorityCount.toNat cursor
  let (additionals, cursor) ← readMany (Record.read data) additionalCount.toNat cursor
  let (additionals, edns) ← Edns.extract? additionals
  return ({ header, questions, answers, authorities, additionals, edns }, cursor)

theorem bind_eq_map_bind {Part Other Kept : Type} {found : Option Part}
    {next : Part → Option Other} {short : Part → Option Kept} {keep : Other → Kept}
    (h : ∀ part, short part = (next part).map keep) :
    found.bind short = (found.bind next).map keep := by
  rw [Option.map_bind]
  exact congrArg found.bind (funext h)

theorem decode?_eq_read (data : Bytes) :
    decode? data = (read data (.into data 0)).map Prod.fst := by
  refine bind_eq_map_bind fun ⟨id, cursor⟩ => ?_
  refine bind_eq_map_bind fun ⟨high, cursor⟩ => bind_eq_map_bind fun ⟨low, cursor⟩ => ?_
  refine bind_eq_map_bind fun header => ?_
  refine bind_eq_map_bind fun ⟨questionCount, cursor⟩ => ?_
  refine bind_eq_map_bind fun ⟨answerCount, cursor⟩ => ?_
  refine bind_eq_map_bind fun ⟨authorityCount, cursor⟩ => ?_
  refine bind_eq_map_bind fun ⟨additionalCount, cursor⟩ => ?_
  refine bind_eq_map_bind fun ⟨questions, cursor⟩ => ?_
  refine bind_eq_map_bind fun ⟨answers, cursor⟩ => ?_
  refine bind_eq_map_bind fun ⟨authorities, cursor⟩ => ?_
  refine bind_eq_map_bind fun ⟨additionals, cursor⟩ => ?_
  exact bind_eq_map_bind fun ⟨others, edns⟩ => rfl

theorem write_faithful {message : Message} (h : message.Readable) :
    Faithful message.write read message.carried := by
  have hrecord := h.records
  simp only [records, List.mem_append] at hrecord
  have hadditionals : ∀ record ∈ message.allAdditionals, record.Readable := by
    intro record hmem
    rcases List.mem_append.mp hmem with hmem | hmem
    · exact hrecord record (Or.inr hmem)
    · obtain ⟨edns, hedns, rfl⟩ := Option.map_eq_some_iff.mp (Option.mem_toList.mp hmem)
      exact Edns.toRecord_readable (h.edns edns hedns)
  have hflags : Writer.bytes [message.header.flagsHigh, message.header.flagsLow] =
      .bytes [message.header.flagsHigh] ++ .bytes [message.header.flagsLow] := rfl
  simp only [write, hflags, Writer.append_assoc]
  -- one link for each step of the reader
  exact (Faithful.word _).bind <| (Faithful.octet _).bind <| (Faithful.octet _).bind <|
    Faithful.given message.header.ofFlags?_flags <|
    (Faithful.word _).bind <| (Faithful.word _).bind <| (Faithful.word _).bind <|
    (Faithful.word _).bind <|
    (Faithful.many message.questions (fun question _ => question.write_faithful)
      (UInt16.toNat_ofNat_of_lt' h.questionCount)).bind <|
    (Faithful.many message.answers
      (fun record hmem => Record.write_faithful (hrecord record (Or.inl (Or.inl hmem))))
      (UInt16.toNat_ofNat_of_lt' h.answerCount)).bind <|
    (Faithful.many message.authorities
      (fun record hmem => Record.write_faithful (hrecord record (Or.inl (Or.inr hmem))))
      (UInt16.toNat_ofNat_of_lt' h.authorityCount)).bind <|
    (Faithful.many message.allAdditionals
      (fun record hmem => Record.write_faithful (hadditionals record hmem))
      (UInt16.toNat_ofNat_of_lt' h.additionalCount)).last fun cursor =>
      Option.bind_eq_some_iff.mpr ⟨_, Edns.extract?_append h.additionals h.edns, by
        simp [carried]⟩

theorem decode?_write {message : Message} (hreadable : message.Readable)
    (hsize : (message.write.run 0 []).1.length ≤ largestSize) :
    decode? (message.write.run 0 []).1 = some message.carried := by
  have hsound : Suffixes.Sound [] [] := fun entry hentry => nomatch hentry
  have hread := (write_faithful hreadable).reads [] [] [] hsound (Nat.lt_succ_of_le hsize)
  rw [List.append_nil, List.append_nil, List.nil_append] at hread
  rw [decode?_eq_read, Cursor.into, List.drop_zero]
  exact congrArg (Option.map Prod.fst) hread

/-- What was written of a message is read back. -/
theorem decode?_of_encode? {message : Message} (hreadable : message.Readable) {out : Bytes}
    (h : message.encode? = some out) : decode? out = some message.trimmed.carried := by
  obtain ⟨rfl, hsize⟩ := encode?_eq_some_iff.mp h
  exact decode?_write (message.trimmed_leftOf.readable hreadable) hsize

/-- A written message begins with its ID and has a whole header. -/
theorem take_of_encode? {message : Message} {out : Bytes} (h : message.encode? = some out) :
    Datagram.headerLength ≤ out.length ∧ out.take 2 = bytes16 message.header.id := by
  obtain ⟨rfl, _⟩ := encode?_eq_some_iff.mp h
  have hid : message.trimmed.header.id = message.header.id := by rw [message.trimmed_leftOf.header]
  simp only [write, Writer.run_append, Writer.word, Writer.bytes, List.append_assoc, hid]
  constructor
  · simp [Datagram.headerLength]
    omega
  · rw [← length_bytes16 message.header.id, List.take_left]

/-! ## What was read is written as it was -/

theorem write_carried (message : Message) : message.carried.write = message.write := by
  simp only [write, carried, allAdditionals, List.map_append, Record.map_write_carried,
    List.length_append, List.length_map]

theorem fitting_carried (place : Place) (records : List Record) :
    fitting place (records.map Record.carried) = (fitting place records).map Record.carried := by
  induction records generalizing place with
  | nil => rfl
  | cons record rest ih =>
      rw [List.map_cons, fitting, fitting, record.write_carried, ih]
      split <;> rfl

theorem cut_carried (message : Message) : message.carried.cut = message.cut.carried := by
  simp only [cut, carried, fitting_carried, Record.map_write_carried]

theorem trimmed_carried (message : Message) :
    message.carried.trimmed = message.trimmed.carried := by
  simp only [trimmed, write_carried, cut_carried]
  split <;> rfl

theorem encode?_carried (message : Message) : message.carried.encode? = message.encode? := by
  rw [encode?, encode?, trimmed_carried, write_carried]

/-- What is read of a written message. -/
theorem carried_leftOf (message : Message) : message.carried.LeftOf message.trimmed.carried := by
  rw [← trimmed_carried]
  exact message.carried.trimmed_leftOf

end Message

end DnsForwarder
