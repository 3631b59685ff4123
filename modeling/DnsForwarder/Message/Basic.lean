import DnsForwarder.Record.Data

/-!
# DNS messages

A message is a header, its questions, and three sections of records.  The OPT
record of the additional section is not a record like the others: it extends
the header, and a message holds it apart as `edns`.

The response code is twelve bits wide.  Four stand in the header and eight in
the OPT record, so a message without one has a code below 16.
-/

namespace DnsForwarder

inductive Opcode
  | query
  | status
  | notify
  | update
deriving DecidableEq, Repr

namespace Opcode

def number : Opcode → Nat
  | query => 0
  | status => 2
  | notify => 4
  | update => 5

def ofNumber? : Nat → Option Opcode
  | 0 => some query
  | 2 => some status
  | 4 => some notify
  | 5 => some update
  | _ => none

theorem ofNumber?_number (opcode : Opcode) : ofNumber? opcode.number = some opcode := by
  cases opcode <;> rfl

end Opcode

/-- The header without its four counts, which follow from the sections. -/
structure Header where
  id : UInt16
  response : Bool
  opcode : Opcode
  authoritative : Bool
  truncated : Bool
  recursionDesired : Bool
  recursionAvailable : Bool
  authenticData : Bool
  checkingDisabled : Bool
  /-- The lower four bits of the response code. -/
  code : Fin 16
deriving DecidableEq, Repr

structure Question where
  name : Name
  kind : RecordType
  cls : RecordClass
deriving DecidableEq

structure Record where
  owner : Name
  kind : RecordType
  /-- The class, or in an OPT record the payload size. -/
  cls : RecordClass
  ttl : UInt32
  /-- Nothing for a record that announces no bytes. -/
  data : Option RecordData
deriving DecidableEq

/-- The smallest payload that every client has to accept. -/
def smallestPayload : Nat := 512

/-- What the OPT record of the additional section says. -/
structure Edns where
  payload : UInt16
  version : UInt8
  /-- The upper eight bits of the response code. -/
  codeHigh : UInt8
  dnssecOk : Bool
  options : Options
deriving DecidableEq

structure Message where
  header : Header
  questions : List Question
  answers : List Record
  authorities : List Record
  additionals : List Record
  edns : Option Edns
deriving DecidableEq

namespace Message

/-- The whole response code. -/
def responseCode (message : Message) : Nat :=
  match message.edns with
  | some edns => edns.codeHigh.toNat * 16 + message.header.code.val
  | none => message.header.code.val

/-- The code for success. -/
def noError : Nat := 0

/-- The code for a name that does not exist. -/
def nameError : Nat := 3

/-- All records of the three sections, in their order. -/
def records (message : Message) : List Record :=
  message.answers ++ message.authorities ++ message.additionals

end Message

end DnsForwarder
