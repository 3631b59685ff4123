import DnsForwarder.Fault

/-!
# Messages taken as bytes

A message can be forwarded without reading it.  Only its header is touched: the
transaction ID in the first two bytes, the flag that marks a response, and, for
the answer to a request that could not be served, the opcode and the wish for
recursion.
-/

namespace DnsForwarder.Datagram

open Wire

/-- The bytes of the fixed header. -/
def headerLength : Nat := 12

def id : Bytes → Except Fault UInt16
  | hi :: lo :: _ => .ok (word16 hi lo)
  | short => .error (.idMissing short.length)

def withId (id : UInt16) : Bytes → Except Fault Bytes
  | _ :: _ :: rest => .ok (bytes16 id ++ rest)
  | short => .error (.idMissing short.length)

def isResponse : Bytes → Bool
  | _ :: _ :: flags :: _ => flags.toNat.testBit 7
  | _ => false

/-- The flags of a refusal: a response, with the opcode and the wish for
recursion of the request. -/
def refusalFlags (flags : UInt8) : UInt8 :=
  UInt8.ofNat (128 + flags.toNat / 8 % 16 * 8 + flags.toNat % 2)

/-- The answer "server failure" to a request.  Only the header of the request
counts, so a request that cannot be read has one too. -/
def refusal (request : Bytes) : Except Fault Bytes :=
  match request with
  | hi :: lo :: flags :: _ =>
    if request.length < headerLength then .error (.headerMissing request.length)
    else .ok ([hi, lo, refusalFlags flags, 128 + 2] ++ List.replicate 8 0)
  | short => .error (.headerMissing short.length)

theorem id_withId {data out : Bytes} {id : UInt16} (done : withId id data = .ok out) :
    Datagram.id out = .ok id := by
  match data with
  | [] => cases done
  | [_] => cases done
  | _ :: _ :: rest =>
    cases done
    change Except.ok (word16 _ _) = _
    rw [word16_bytes16]

/-- What has an ID can be given another one. -/
theorem withId_of_id {own : UInt16} {data : Bytes} (h : Datagram.id data = .ok own)
    (id : UInt16) : withId id data = .ok (bytes16 id ++ data.drop 2) := by
  match data with
  | [] => cases h
  | [_] => cases h
  | _ :: _ :: rest => rfl

theorem length_withId {data out : Bytes} {id : UInt16} (done : withId id data = .ok out) :
    out.length = data.length := by
  match data with
  | [] => cases done
  | [_] => cases done
  | _ :: _ :: rest => cases done; simp; omega

end DnsForwarder.Datagram
