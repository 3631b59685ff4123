import DnsForwarder.Name.Basic
import DnsForwarder.Wire.Cursor
import DnsForwarder.Wire.Writer

/-!
# Names on the wire

A name travels as its labels, each behind a length byte, and ends with a zero
byte or with a pointer to an earlier place of the message where its remaining
labels stand.

## Strategy

A pointer may only lead to a place before the name that holds it began, and
what is read there has to end before that beginning again.  So each pointer
followed lowers the place where reading starts, and between two pointers the
bytes left become fewer: reading ends on every message, however its pointers
are arranged.

The writer remembers where each suffix it has written in full begins.  A later
name whose suffix is known is cut short by a pointer.  Pointers have fourteen
bits, so only suffixes that end before offset `0x3FFF` are remembered.
-/

namespace DnsForwarder

open Wire

/-! ## Reading -/

/-- The labels that stand at `offset`, where the message goes on with the given
bytes, and the place behind the name there.  The name began at `start`; `limit`
is the beginning of the name that pointed here, which reading may not reach. -/
def readLabels (message : Bytes) (start : Nat) (limit : Option Nat) (offset : Nat) :
    Bytes → Option (List Bytes × Cursor)
  | [] => none
  | size :: rest =>
    if limit.any (· ≤ offset) then none
    else if size = 0 then some ([], ⟨offset + 1, rest⟩)
    else if size < 64 then
      if (rest.take size.toNat).length = size.toNat then
        match readLabels message start limit (offset + 1 + size.toNat)
            (rest.drop size.toNat) with
        | some (labels, after) => some (rest.take size.toNat :: labels, after)
        | none => none
      else none
    else if 192 ≤ size then
      match rest with
      | [] => none
      | low :: after =>
        let target := (size.toNat - 192) * 256 + low.toNat
        if target < start then
          match readLabels message target (some start) target (message.drop target) with
          | some (labels, _) => some (labels, ⟨offset + 2, after⟩)
          | none => none
        else none
    else none
termination_by rest => (start, rest.length)
decreasing_by
  · apply Prod.Lex.right
    simp only [List.length_drop, List.length_cons]
    omega
  · apply Prod.Lex.left
    assumption

namespace Name

def read (message : Bytes) (cursor : Cursor) : Option (Name × Cursor) := do
  let (labels, after) ← readLabels message cursor.offset none cursor.offset cursor.rest
  let name ← ofLabels? labels
  return (name, after)

end Name

/-! ## Writing -/

/-- How a name is written: shared names may end in a pointer, whole ones may
not. -/
inductive NameForm
  | shared
  | whole
deriving DecidableEq

def pointerBytes (target : Nat) : Bytes := bytes16 (UInt16.ofNat (0xC000 + target))

/-- Writes `labels` at `offset`; the name they end has its last label end at
`finish`. -/
def writeLabels (form : NameForm) (finish : Nat) :
    List Bytes → Nat → Suffixes → Bytes × Suffixes
  | [], _, known => ([0], known)
  | label :: labels, offset, known =>
    match form, known.find? (label :: labels) with
    | .shared, some target => (pointerBytes target, known)
    | _, found =>
      let known :=
        if found.isNone && finish < 0x3FFF then (offset, label :: labels) :: known else known
      let (bytes, known) := writeLabels form finish labels (offset + (label.length + 1)) known
      (characterBytes label ++ bytes, known)

namespace Name

def write (form : NameForm) (name : Name) : Writer :=
  ⟨fun offset known =>
    writeLabels form (offset + wireLength name.labels) name.labels offset known⟩

end Name

end DnsForwarder
