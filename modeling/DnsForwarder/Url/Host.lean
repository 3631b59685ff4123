import DnsForwarder.Fault
import DnsForwarder.Net.Address
import DnsForwarder.Number.Power
import DnsForwarder.Url.Domain

/-!
# Hosts of URLs

A host is a domain, an IPv4 address or, in brackets, an IPv6 address.  A domain
is kept in its form in ASCII.  A host whose last label is a number is an IPv4
address, which may have fewer than four parts, in base 8, 10 or 16; the last part
fills what is left of the address.
-/

namespace DnsForwarder.Url

inductive Host
  | domain (name : List Char)
  | v4 (address : Ipv4)
  | v6 (address : Ipv6)
deriving DecidableEq, Repr

namespace Host

/-! ## Numbers -/

/-- What one part of an address says: none if it is no number. -/
def part? : List Char → Option Nat
  | [] => none
  | '0' :: 'x' :: rest => if rest.isEmpty then some 0 else Text.ofDigits? 16 rest
  | '0' :: c :: rest => Text.ofDigits? 8 (c :: rest)
  | text => Text.ofDigits? 10 text

/-- The labels of a domain, without the empty one behind a last dot. -/
def labels (name : List Char) : List (List Char) :=
  match (Text.splitOn '.' name).reverse with
  | [] :: label :: rest => (label :: rest).reverse
  | labels => labels.reverse

def endsInNumber (name : List Char) : Bool :=
  match (labels name).getLast? with
  | none | some [] => false
  | some last => last.all Text.isDecimal || (part? last).isSome

/-- The number of the address that the parts make. -/
def addressNumber? (parts : List Nat) : Option Nat :=
  match parts.reverse with
  | [] => none
  | last :: front =>
    if 4 ≤ front.length ∨ front.any (255 < ·) ∨ twoTo (8 * (4 - front.length)) ≤ last then none
    else some (front.reverse.foldl (fun sum part => sum * 256 + part) 0
      * twoTo (8 * (4 - front.length)) + last)

def v4? (name : List Char) : Option Ipv4 := do
  let number ← addressNumber? (← (labels name).mapM part?)
  return ⟨UInt8.ofNat (number / 16777216), UInt8.ofNat (number / 65536),
    UInt8.ofNat (number / 256), UInt8.ofNat number⟩

/-! ## Reading and writing -/

def bracketed? (inner : List Char) : Except UrlFault Host :=
  match inner.getLast?, Ipv6.parse? inner.dropLast with
  | some ']', some address => .ok (v6 address)
  | _, _ => .error .ipv6Address

/-- The host of a URL that names a server by its domain. -/
def parse (text : List Char) : Except UrlFault Host :=
  match text with
  | '[' :: inner => bracketed? inner
  | _ =>
    match (ofUtf8? (decode text)).bind asciiDomain? with
    | none => .error .internationalName
    | some [] => .error .emptyHost
    | some name =>
      if endsInNumber name then
        match v4? name with
        | some address => .ok (v4 address)
        | none => .error .ipv4Address
      else .ok (domain name)

/-- Characters that no host of another URL holds. -/
def isUnreadable (c : Char) : Bool :=
  c ∈ ['\x00', '\t', '\n', '\x0d', ' ', '#', '/', ':', '<', '>', '?', '@', '[', '\\', ']',
    '^', '|']

/-- What is wrong with the host of a URL that names something else, if anything. -/
def checkOther (text : List Char) : Except UrlFault Unit :=
  match text with
  | '[' :: inner => (bracketed? inner).map fun _ => ()
  | _ => if text.any isUnreadable then .error .hostCharacter else .ok ()

def chars : Host → List Char
  | domain name => name
  | v4 address => address.chars
  | v6 address => '[' :: address.compressed ++ [']']

end Host

end DnsForwarder.Url
