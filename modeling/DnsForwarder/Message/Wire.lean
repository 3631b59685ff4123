import DnsForwarder.Datagram
import DnsForwarder.Message.Basic

/-!
# Messages on the wire

## Strategy

Reading takes the sections in their order and then lifts the OPT record out of
the additional section; two of them make a message unreadable.  What stands
behind the last record is ignored.

Writing counts the sections anew and puts the OPT record last.  A message of
more than 65535 bytes is written without the records that there is no room for,
as a truncated message; only a message whose questions alone are too large has
no written form.
-/

namespace DnsForwarder

open Wire

/-! ## Header -/

namespace Header

/-- The flags and the code from the third and fourth byte of a message. -/
def ofFlags? (id : UInt16) (high low : UInt8) : Option Header :=
  (Opcode.ofNumber? (high.toNat / 8 % 16)).map fun opcode =>
    { id
      response := high.toNat.testBit 7
      opcode
      authoritative := high.toNat.testBit 2
      truncated := high.toNat.testBit 1
      recursionDesired := high.toNat.testBit 0
      recursionAvailable := low.toNat.testBit 7
      authenticData := low.toNat.testBit 5
      checkingDisabled := low.toNat.testBit 4
      code := Fin.ofNat 16 low.toNat }

def flagsHigh (header : Header) : UInt8 :=
  UInt8.ofNat (header.response.toNat * 128 + header.opcode.number * 8 +
    header.authoritative.toNat * 4 + header.truncated.toNat * 2 +
    header.recursionDesired.toNat)

def flagsLow (header : Header) : UInt8 :=
  UInt8.ofNat (header.recursionAvailable.toNat * 128 + header.authenticData.toNat * 32 +
    header.checkingDisabled.toNat * 16 + header.code.val)

end Header

/-! ## Questions and records -/

namespace Question

def read (message : Bytes) (cursor : Cursor) : Option (Question × Cursor) := do
  let (name, cursor) ← Name.read message cursor
  let (kind, cursor) ← cursor.word
  let (cls, cursor) ← cursor.word
  return ({ name, kind := ⟨kind⟩, cls := ⟨cls⟩ }, cursor)

def write (question : Question) : Writer :=
  question.name.write .shared ++ .word question.kind.code ++ .word question.cls.code

end Question

/-- A payload size below the smallest one that counts is raised to it. -/
def raisePayload (size : UInt16) : UInt16 :=
  if size.toNat < smallestPayload then UInt16.ofNat smallestPayload else size

namespace Record

/-- An OPT record belongs to the root, whatever section it stands in. -/
def read (message : Bytes) (cursor : Cursor) : Option (Record × Cursor) := do
  let (owner, cursor) ← Name.read message cursor
  let (kind, cursor) ← cursor.word
  let (cls, cursor) ← cursor.word
  let (ttl, cursor) ← cursor.long
  let (size, cursor) ← cursor.word
  let isOpt := RecordType.mk kind == .opt
  if isOpt && !owner.isRoot then none
  let (data, cursor) ← RecordData.read message ⟨kind⟩ size.toNat cursor
  let cls := if isOpt then raisePayload cls else cls
  return ({ owner, kind := ⟨kind⟩, cls := ⟨cls⟩, ttl, data }, cursor)

def write (record : Record) : Writer :=
  record.owner.write .shared ++ .word record.kind.code ++ .word record.cls.code ++
    .long record.ttl ++ .sized ((record.data.map RecordData.write).getD .nothing)

end Record

/-! ## The OPT record -/

namespace Edns

/-- Reads the extension out of an OPT record. -/
def ofRecord (record : Record) : Edns :=
  { payload := record.cls.code
    version := UInt8.ofNat (record.ttl.toNat / 65536)
    codeHigh := UInt8.ofNat (record.ttl.toNat / 16777216)
    dnssecOk := record.ttl.toNat.testBit 15
    options :=
      match record.data with
      | some (.options options) => options
      | _ => [] }

def toRecord (edns : Edns) : Record :=
  { owner := .root
    kind := .opt
    cls := ⟨raisePayload edns.payload⟩
    ttl := UInt32.ofNat (edns.codeHigh.toNat * 16777216 + edns.version.toNat * 65536 +
      edns.dnssecOk.toNat * 32768)
    data := some (.options edns.options) }

/-- Lifts the OPT record out of the additional section. -/
def extract? (additionals : List Record) : Option (List Record × Option Edns) :=
  let others := additionals.filter fun record => record.kind != .opt
  match additionals.filter fun record => record.kind == .opt with
  | [] => some (others, none)
  | [record] => some (others, some (ofRecord record))
  | _ => none

end Edns

/-! ## Messages -/

/-- Reads `count` parts one behind the other. -/
def readMany {Part : Type} (read : Cursor → Option (Part × Cursor)) :
    Nat → Cursor → Option (List Part × Cursor)
  | 0, cursor => some ([], cursor)
  | count + 1, cursor =>
    match read cursor with
    | none => none
    | some (part, cursor) =>
      match readMany read count cursor with
      | none => none
      | some (parts, cursor) => some (part :: parts, cursor)

namespace Message

def decode? (data : Bytes) : Option Message := do
  let cursor := Cursor.into data 0
  let (id, cursor) ← cursor.word
  let (high, cursor) ← cursor.octet
  let (low, cursor) ← cursor.octet
  let header ← Header.ofFlags? id high low
  let (questionCount, cursor) ← cursor.word
  let (answerCount, cursor) ← cursor.word
  let (authorityCount, cursor) ← cursor.word
  let (additionalCount, cursor) ← cursor.word
  let (questions, cursor) ← readMany (Question.read data) questionCount.toNat cursor
  let (answers, cursor) ← readMany (Record.read data) answerCount.toNat cursor
  let (authorities, cursor) ← readMany (Record.read data) authorityCount.toNat cursor
  let (additionals, _) ← readMany (Record.read data) additionalCount.toNat cursor
  let (additionals, edns) ← Edns.extract? additionals
  return { header, questions, answers, authorities, additionals, edns }

/-- The records of the additional section as they travel, the OPT record last. -/
def allAdditionals (message : Message) : List Record :=
  message.additionals ++ (message.edns.map Edns.toRecord).toList

def write (message : Message) : Writer :=
  .word message.header.id ++
    .bytes [message.header.flagsHigh, message.header.flagsLow] ++
    .word (UInt16.ofNat message.questions.length) ++
    .word (UInt16.ofNat message.answers.length) ++
    .word (UInt16.ofNat message.authorities.length) ++
    .word (UInt16.ofNat message.allAdditionals.length) ++
    .concat (message.questions.map Question.write) ++
    .concat (message.answers.map Record.write) ++
    .concat (message.authorities.map Record.write) ++
    .concat (message.allAdditionals.map Record.write)

/-- The largest message that can travel. -/
def largestSize : Nat := 65535

/-- The records of a section that there is room for: those in front of the first
one that would end too far behind. -/
def fitting (place : Place) : List Record → List Record
  | [] => []
  | record :: rest =>
    let next := record.write.behind place
    if next.offset ≤ largestSize then record :: fitting next rest else []

/-- What is left of a message that is too large.  Every section loses the records
from the first one on that does not fit, and the OPT record is a section of its
own. -/
def cut (message : Message) : Message :=
  let behind (place : Place) (records : List Record) : Place :=
    (Writer.concat (records.map Record.write)).behind place
  let place : Place :=
    (Writer.concat (message.questions.map Question.write)).behind ⟨Datagram.headerLength, []⟩
  let answers := fitting place message.answers
  let place := behind place answers
  let authorities := fitting place message.authorities
  let place := behind place authorities
  let additionals := fitting place message.additionals
  let place := behind place additionals
  { message with
    header := { message.header with truncated := true }
    answers
    authorities
    additionals
    edns := message.edns.filter fun edns => !(fitting place [edns.toRecord]).isEmpty }

/-- What is written of a message: all of it, if it can travel. -/
def trimmed (message : Message) : Message :=
  if (message.write.run 0 []).1.length ≤ largestSize then message else message.cut

def encode? (message : Message) : Option Bytes :=
  let bytes := (message.trimmed.write.run 0 []).1
  if bytes.length ≤ largestSize then some bytes else none

end Message

end DnsForwarder
