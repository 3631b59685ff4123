/-!
# Bytes and big-endian words

A message on the wire is a list of bytes.  Words of two and four bytes are
written with the most significant byte first.  Reading what was written gives
the word back (`word16_bytes16`, `word32_bytes32`), and writing what was read
gives the bytes back (`bytes16_word16`, `bytes32_word32`), so a word and its
bytes determine each other.
-/

namespace DnsForwarder

/-- A message, or a part of one, as it travels. -/
abbrev Bytes := List UInt8

namespace Wire

def word16 (hi lo : UInt8) : UInt16 :=
  UInt16.ofNat (hi.toNat * 256 + lo.toNat)

def bytes16 (word : UInt16) : Bytes :=
  [UInt8.ofNat (word.toNat / 256), UInt8.ofNat word.toNat]

def word32 (a b c d : UInt8) : UInt32 :=
  UInt32.ofNat (a.toNat * 16777216 + b.toNat * 65536 + c.toNat * 256 + d.toNat)

def bytes32 (word : UInt32) : Bytes :=
  [UInt8.ofNat (word.toNat / 16777216), UInt8.ofNat (word.toNat / 65536),
   UInt8.ofNat (word.toNat / 256), UInt8.ofNat word.toNat]

@[simp] theorem length_bytes16 (word : UInt16) : (bytes16 word).length = 2 := rfl

@[simp] theorem length_bytes32 (word : UInt32) : (bytes32 word).length = 4 := rfl

theorem word16_bytes16 (word : UInt16) :
    word16 (UInt8.ofNat (word.toNat / 256)) (UInt8.ofNat word.toNat) = word := by
  have bound := word.toNat_lt
  apply UInt16.toNat_inj.mp
  simp only [word16, UInt16.toNat_ofNat', UInt8.toNat_ofNat']
  omega

theorem bytes16_word16 (hi lo : UInt8) : bytes16 (word16 hi lo) = [hi, lo] := by
  have hiBound := hi.toNat_lt
  have loBound := lo.toNat_lt
  simp only [bytes16, List.cons.injEq, and_true]
  constructor <;> apply UInt8.toNat_inj.mp <;>
    simp only [word16, UInt16.toNat_ofNat', UInt8.toNat_ofNat'] <;> omega

theorem word32_bytes32 (word : UInt32) :
    word32 (UInt8.ofNat (word.toNat / 16777216)) (UInt8.ofNat (word.toNat / 65536))
      (UInt8.ofNat (word.toNat / 256)) (UInt8.ofNat word.toNat) = word := by
  have bound := word.toNat_lt
  apply UInt32.toNat_inj.mp
  simp only [word32, UInt32.toNat_ofNat', UInt8.toNat_ofNat']
  omega

theorem bytes32_word32 (a b c d : UInt8) : bytes32 (word32 a b c d) = [a, b, c, d] := by
  have aBound := a.toNat_lt
  have bBound := b.toNat_lt
  have cBound := c.toNat_lt
  have dBound := d.toNat_lt
  simp only [bytes32, List.cons.injEq, and_true]
  refine ⟨?_, ?_, ?_, ?_⟩ <;> apply UInt8.toNat_inj.mp <;>
    simp only [word32, UInt32.toNat_ofNat', UInt8.toNat_ofNat'] <;> omega

end Wire

end DnsForwarder
