import DnsForwarder.Wire.Bytes

/-!
# Reading a message from left to right

A cursor is a place in a message: its offset and the bytes from there to the
end.  Each read answers what it found together with the cursor behind it, or
nothing when the message ends too soon.
-/

namespace DnsForwarder.Wire

structure Cursor where
  offset : Nat
  rest : Bytes

namespace Cursor

/-- The place `offset` bytes into `message`. -/
def into (message : Bytes) (offset : Nat) : Cursor := ⟨offset, message.drop offset⟩

def octet : Cursor → Option (UInt8 × Cursor)
  | ⟨offset, byte :: rest⟩ => some (byte, ⟨offset + 1, rest⟩)
  | _ => none

def word : Cursor → Option (UInt16 × Cursor)
  | ⟨offset, hi :: lo :: rest⟩ => some (word16 hi lo, ⟨offset + 2, rest⟩)
  | _ => none

def long : Cursor → Option (UInt32 × Cursor)
  | ⟨offset, a :: b :: c :: d :: rest⟩ => some (word32 a b c d, ⟨offset + 4, rest⟩)
  | _ => none

/-- The next `count` bytes. -/
def take (count : Nat) (cursor : Cursor) : Option (Bytes × Cursor) :=
  let taken := cursor.rest.take count
  if taken.length = count then
    some (taken, ⟨cursor.offset + count, cursor.rest.drop count⟩)
  else none

/-- A character string: one byte for the length, then that many bytes. -/
def characterString (cursor : Cursor) : Option (Bytes × Cursor) := do
  let (size, cursor) ← cursor.octet
  cursor.take size.toNat

theorem word_bytes16 (word : UInt16) (offset : Nat) (rest : Bytes) :
    Cursor.word ⟨offset, bytes16 word ++ rest⟩ = some (word, ⟨offset + 2, rest⟩) := by
  change some (word16 _ _, _) = _
  rw [word16_bytes16]; rfl

theorem long_bytes32 (word : UInt32) (offset : Nat) (rest : Bytes) :
    Cursor.long ⟨offset, bytes32 word ++ rest⟩ = some (word, ⟨offset + 4, rest⟩) := by
  change some (word32 _ _ _ _, _) = _
  rw [word32_bytes32]; rfl

theorem take_append (bytes : Bytes) (offset : Nat) (rest : Bytes) :
    Cursor.take bytes.length ⟨offset, bytes ++ rest⟩ =
      some (bytes, ⟨offset + bytes.length, rest⟩) := by
  simp [Cursor.take]

end Cursor

end DnsForwarder.Wire
