import DnsForwarder.Text.Digits
import DnsForwarder.Wire.Bytes

/-!
# Bytes as text

A byte is written as two hexadecimal digits, in lowercase; either case is read.
`ofHex?_hex` says that reading undoes writing.
-/

namespace DnsForwarder.Wire

def hexPair (byte : UInt8) : List Char :=
  [Text.digitChar (byte.toNat / 16), Text.digitChar (byte.toNat % 16)]

def hex (bytes : Bytes) : List Char := bytes.flatMap hexPair

/-- Reads pairs of digits; `found` are the bytes so far, the last one first. -/
def readHex (found : Bytes) : List Char → Option Bytes
  | [] => some found.reverse
  | [_] => none
  | high :: low :: rest =>
    match Text.digitIn? 16 high, Text.digitIn? 16 low with
    | some high, some low => readHex (UInt8.ofNat (high * 16 + low) :: found) rest
    | _, _ => none

/-- The bytes that a text stands for. -/
def ofHex? (text : List Char) : Option Bytes := readHex [] text

theorem readHex_hex (found bytes : Bytes) :
    readHex found (hex bytes) = some (found.reverse ++ bytes) := by
  induction bytes generalizing found with
  | nil => simp [hex, readHex]
  | cons byte rest ih =>
    have bound := byte.toNat_lt
    have high : Text.digitIn? 16 (Text.digitChar (byte.toNat / 16)) = some (byte.toNat / 16) :=
      Text.digitIn?_digitChar (Nat.le_refl 16) (by omega)
    have low : Text.digitIn? 16 (Text.digitChar (byte.toNat % 16)) = some (byte.toNat % 16) :=
      Text.digitIn?_digitChar (Nat.le_refl 16) (by omega)
    have whole : byte.toNat / 16 * 16 + byte.toNat % 16 = byte.toNat := by omega
    rw [hex, List.flatMap_cons]
    simp only [hexPair, List.cons_append, List.nil_append, readHex, high, low, whole,
      UInt8.ofNat_toNat]
    rw [show rest.flatMap hexPair = hex rest from rfl, ih]
    simp

theorem ofHex?_hex (bytes : Bytes) : ofHex? (hex bytes) = some bytes := readHex_hex [] bytes

end DnsForwarder.Wire
