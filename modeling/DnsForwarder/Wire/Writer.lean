import DnsForwarder.Wire.Bytes

/-!
# Writing a message from left to right

What a part of a message is written as depends on the offset where it starts
and on the name suffixes that stand before it, since a name may end in a
pointer to one of them.  A writer answers its bytes and the suffixes known
behind it; `first ++ second` writes one part behind the other.
-/

namespace DnsForwarder.Wire

/-- The name suffixes written so far, each with the offset where it begins. -/
abbrev Suffixes := List (Nat × List Bytes)

/-- The offset of a suffix that has been written already. -/
def Suffixes.find? (known : Suffixes) (labels : List Bytes) : Option Nat :=
  (List.find? (fun entry => entry.2 == labels) known).map Prod.fst

/-- Where a part of a message is written: its offset, and the suffixes before it. -/
structure Place where
  offset : Nat
  known : Suffixes

structure Writer where
  run : Nat → Suffixes → Bytes × Suffixes

namespace Writer

/-- Bytes that do not depend on their place. -/
def bytes (content : Bytes) : Writer := ⟨fun _ known => (content, known)⟩

def nothing : Writer := bytes []

def word (value : UInt16) : Writer := bytes (bytes16 value)

def long (value : UInt32) : Writer := bytes (bytes32 value)

protected def append (first second : Writer) : Writer :=
  ⟨fun offset known =>
    let (front, known) := first.run offset known
    let (back, known) := second.run (offset + front.length) known
    (front ++ back, known)⟩

instance : Append Writer := ⟨Writer.append⟩

/-- Writes the parts one behind the other. -/
def concat : List Writer → Writer
  | [] => nothing
  | first :: rest => first ++ concat rest

/-- Writes a part behind a word that holds the number of its bytes. -/
def sized (content : Writer) : Writer :=
  ⟨fun offset known =>
    let (body, known) := content.run (offset + 2) known
    (bytes16 (UInt16.ofNat body.length) ++ body, known)⟩

/-- Where the next part is written, after this one. -/
def behind (writer : Writer) (place : Place) : Place :=
  let (bytes, known) := writer.run place.offset place.known
  ⟨place.offset + bytes.length, known⟩

theorem run_append (first second : Writer) (offset : Nat) (known : Suffixes) :
    (first ++ second).run offset known =
      ((first.run offset known).1 ++
        (second.run (offset + (first.run offset known).1.length) (first.run offset known).2).1,
      (second.run (offset + (first.run offset known).1.length) (first.run offset known).2).2) :=
  rfl

theorem offset_behind (writer : Writer) (place : Place) :
    (writer.behind place).offset =
      place.offset + (writer.run place.offset place.known).1.length :=
  rfl

@[simp] theorem behind_append (first second : Writer) (place : Place) :
    (first ++ second).behind place = second.behind (first.behind place) := by
  simp only [behind, run_append, List.length_append, Nat.add_assoc]

end Writer

/-- A character string as it travels; it holds at most 255 bytes. -/
def characterBytes (string : Bytes) : Bytes := UInt8.ofNat string.length :: string

end DnsForwarder.Wire
