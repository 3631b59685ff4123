import DnsForwarder.Text.Digits
import DnsForwarder.Text.Split

/-!
# Addresses and their text

An IPv4 address is written as four decimal numbers without leading zeros.  An
IPv6 address is eight groups of hexadecimal digits, of which one run of zeros
may be left out; the last two groups may be written as an IPv4 address.  In the
canonical text the digits are lowercase, the longest run of at least two zero
groups is left out (the first one of several), and only an address that maps an
IPv4 address is written with one.

A socket address adds a number of sixteen bits behind a colon; an IPv6 address
then stands in brackets, with the number of its scope unless that is zero.
-/

namespace DnsForwarder

structure Ipv4 where
  a : UInt8
  b : UInt8
  c : UInt8
  d : UInt8
deriving DecidableEq, Repr

structure Ipv6 where
  groups : List UInt16
  eight : groups.length = 8
deriving DecidableEq, Repr

inductive IpAddress
  | v4 (address : Ipv4)
  | v6 (address : Ipv6)
deriving DecidableEq, Repr

inductive SocketAddress
  | v4 (address : Ipv4) (portNumber : UInt16)
  | v6 (address : Ipv6) (scope : UInt32) (portNumber : UInt16)
deriving DecidableEq, Repr

/-! ## Numbers -/

/-- A decimal number below `bound`, leading zeros allowed. -/
def decimalBelow? (bound : Nat) (text : List Char) : Option Nat :=
  (Text.ofDigits? 10 text).filter (· < bound)

namespace Ipv4

/-- One of the four numbers. -/
def octet? (text : List Char) : Option UInt8 :=
  if 3 < text.length ∨ (1 < text.length ∧ text.head? = some '0') then none
  else (decimalBelow? 256 text).map UInt8.ofNat

def parse? (text : List Char) : Option Ipv4 :=
  match Text.splitOn '.' text with
  | [a, b, c, d] => do return ⟨← octet? a, ← octet? b, ← octet? c, ← octet? d⟩
  | _ => none

def chars (address : Ipv4) : List Char :=
  Text.joinWith ['.']
    ([address.a, address.b, address.c, address.d].map fun octet => Text.digits 10 octet.toNat)

def text (address : Ipv4) : String := String.ofList address.chars

def loopback : Ipv4 := ⟨127, 0, 0, 1⟩

def unspecified : Ipv4 := ⟨0, 0, 0, 0⟩

end Ipv4

namespace Ipv6

/-- Four hexadecimal digits at most. -/
def group? (text : List Char) : Option UInt16 :=
  if 4 < text.length then none else (Text.ofDigits? 16 text).map UInt16.ofNat

/-- The two groups that an IPv4 address fills. -/
def embedded (address : Ipv4) : List UInt16 :=
  [UInt16.ofNat (address.a.toNat * 256 + address.b.toNat),
   UInt16.ofNat (address.c.toNat * 256 + address.d.toNat)]

/-- Groups of which the last may be an IPv4 address if `ending` is set. -/
def groups? (ending : Bool) : List (List Char) → Option (List UInt16)
  | [] => some []
  | [part] =>
    match if ending then Ipv4.parse? part else none with
    | some address => some (embedded address)
    | none => (group? part).map ([·])
  | part :: rest => do return (← group? part) :: (← groups? ending rest)

/-- Groups separated by colons; no text at all is no group. -/
def run? (ending : Bool) (text : List Char) : Option (List UInt16) :=
  if text.isEmpty then some [] else groups? ending (Text.splitOn ':' text)

/-- The text around the first double colon. -/
def splitGap : List Char → Option (List Char × List Char)
  | [] => none
  | ':' :: ':' :: rest => some ([], rest)
  | c :: rest => (splitGap rest).map fun (front, back) => (c :: front, back)

def ofGroups? (groups : List UInt16) : Option Ipv6 :=
  if eight : groups.length = 8 then some ⟨groups, eight⟩ else none

def parse? (text : List Char) : Option Ipv6 :=
  match splitGap text with
  | none => (run? true text).bind ofGroups?
  | some (front, back) => do
    let front ← run? false front
    let back ← run? true back
    -- the gap stands for one group of zeros at least
    if 7 < front.length + back.length then none
    ofGroups? (front ++ List.replicate (8 - front.length - back.length) 0 ++ back)

/-- How many zeros the groups start with. -/
def leadingZeros (groups : List UInt16) : Nat := (groups.takeWhile (· == 0)).length

/-- The place and length of the first longest run of zeros, the groups counted
from `index`. -/
def longestZeros (index : Nat) : List UInt16 → Nat × Nat
  | [] => (index, 0)
  | group :: rest =>
    let here := leadingZeros (group :: rest)
    let later := longestZeros (index + 1) rest
    if later.2 ≤ here then (index, here) else later

def groupsText (groups : List UInt16) : List Char :=
  Text.joinWith [':'] (groups.map fun group => Text.digits 16 group.toNat)

/-- The text with the longest run of zeros left out. -/
def compressed (address : Ipv6) : List Char :=
  let (start, length) := longestZeros 0 address.groups
  if 1 < length then
    groupsText (address.groups.take start) ++ [':', ':'] ++
      groupsText (address.groups.drop (start + length))
  else groupsText address.groups

/-- The IPv4 address that an address maps. -/
def mapped? (address : Ipv6) : Option Ipv4 :=
  match address.groups with
  | [0, 0, 0, 0, 0, 0xffff, high, low] =>
    some ⟨UInt8.ofNat (high.toNat / 256), UInt8.ofNat high.toNat,
      UInt8.ofNat (low.toNat / 256), UInt8.ofNat low.toNat⟩
  | _ => none

def chars (address : Ipv6) : List Char :=
  match address.mapped? with
  | some inner => "::ffff:".toList ++ inner.chars
  | none => address.compressed

def text (address : Ipv6) : String := String.ofList address.chars

def loopback : Ipv6 := ⟨[0, 0, 0, 0, 0, 0, 0, 1], rfl⟩

def unspecified : Ipv6 := ⟨[0, 0, 0, 0, 0, 0, 0, 0], rfl⟩

end Ipv6

namespace IpAddress

def parse? (text : List Char) : Option IpAddress :=
  match Ipv4.parse? text with
  | some address => some (v4 address)
  | none => (Ipv6.parse? text).map v6

def ofString? (text : String) : Option IpAddress := parse? text.toList

def text : IpAddress → String
  | v4 address => address.text
  | v6 address => address.text

end IpAddress

namespace SocketAddress

def portNumber? (text : List Char) : Option UInt16 :=
  (decimalBelow? 65536 text).map UInt16.ofNat

/-- What stands between the brackets. -/
def scoped? (text : List Char) : Option (Ipv6 × UInt32) :=
  match Text.splitOnce '%' text with
  | none => (Ipv6.parse? text).map fun address => (address, 0)
  | some (address, scope) => do
    return (← Ipv6.parse? address, UInt32.ofNat (← decimalBelow? 4294967296 scope))

def parse? : List Char → Option SocketAddress
  | '[' :: rest =>
    match Text.splitOnce ']' rest with
    | some (inner, ':' :: number) => do
      let (address, scope) ← scoped? inner
      return v6 address scope (← portNumber? number)
    | _ => none
  | text =>
    match Text.splitOn ':' text with
    | [address, number] => do return v4 (← Ipv4.parse? address) (← portNumber? number)
    | _ => none

def ofString? (text : String) : Option SocketAddress := parse? text.toList

def chars : SocketAddress → List Char
  | v4 address number => address.chars ++ ':' :: Text.digits 10 number.toNat
  | v6 address scope number =>
    let scopeText := if scope = 0 then [] else '%' :: Text.digits 10 scope.toNat
    '[' :: address.chars ++ scopeText ++ [']', ':'] ++ Text.digits 10 number.toNat

def text (address : SocketAddress) : String := String.ofList address.chars

def of (address : IpAddress) (number : UInt16) : SocketAddress :=
  match address with
  | .v4 address => v4 address number
  | .v6 address => v6 address 0 number

def ip : SocketAddress → IpAddress
  | v4 address _ => .v4 address
  | v6 address _ _ => .v6 address

def number : SocketAddress → UInt16
  | v4 _ number => number
  | v6 _ _ number => number

end SocketAddress

end DnsForwarder
