import DnsForwarder.Name.Wire
import DnsForwarder.Record.Kind

/-!
# Record data

The types whose data holds names have to be taken apart, because a name that
moves to another message cannot keep its pointers.  The data of the other types
is kept as bytes.

What is read has to end exactly where the record says its data ends.  Writing
gives names a form by type: the oldest types may share suffixes with the rest
of the message, the younger ones are written whole.  The target of a service
record and the name of an ANAME record are written in lowercase.
-/

namespace DnsForwarder

open Wire

/-- The options of an OPT record: each code once, with its data. -/
abbrev Options := List (UInt16 × Bytes)

inductive RecordData
  /-- The address of an A or AAAA record. -/
  | address (octets : Bytes)
  /-- The name an NS, CNAME or PTR record leads to. -/
  | host (name : Name)
  /-- The name an ANAME record leads to. -/
  | aname (name : Name)
  | mail (preference : UInt16) (exchange : Name)
  | authority (primary contact : Name) (serial refresh retry expire minimum : UInt32)
  | service (priority weight socket : UInt16) (target : Name)
  | text (strings : List Bytes)
  | machine (processor system : Bytes)
  | rewriting (order preference : UInt16) (flags services pattern : Bytes) (replacement : Name)
  | options (options : Options)
  | raw (bytes : Bytes)
deriving DecidableEq

/-! ## Options -/

namespace Options

/-- A later value takes the place of an earlier one under the same code. -/
def set (options : Options) (code : UInt16) (data : Bytes) : Options :=
  options.filter (fun entry => entry.1 != code) ++ [(code, data)]

/-- The code of the client subnet option. -/
def clientSubnet : UInt16 := 8

/-- A client subnet carries as many address bytes as its prefix length calls
for; bytes behind those are dropped. -/
def subnetData? : Bytes → Option Bytes
  | familyHigh :: familyLow :: source :: scope :: address =>
    let width :=
      if word16 familyHigh familyLow = 1 then 4
      else if word16 familyHigh familyLow = 2 then 16
      else 0
    let size := (source.toNat + 7) / 8
    if width = 0 ∨ width < size ∨ address.length < size then none
    else some (familyHigh :: familyLow :: source :: scope :: address.take size)
  | _ => none

/-- The data that is kept for an option; a client subnet has to be well formed. -/
def data? (code : UInt16) (data : Bytes) : Option Bytes :=
  if code = clientSubnet then subnetData? data else some data

/-- Reads options up to offset `stop`.  When the data ends behind a code or in
the middle of an option, every option is dropped. -/
def read (stop size : Nat) (found : Options) (cursor : Cursor) : Option (Options × Cursor) :=
  if cursor.offset < stop then
    match cursor.rest with
    | codeHigh :: codeLow :: rest =>
      let code := word16 codeHigh codeLow
      if stop ≤ cursor.offset + 2 then some ([], ⟨cursor.offset + 2, rest⟩)
      else
        match rest with
        | lengthHigh :: lengthLow :: rest =>
          let length := (word16 lengthHigh lengthLow).toNat
          let offset := cursor.offset + 4
          if size < length then none
          else if 0 < length ∧ stop < offset + length then
            some ([], ⟨max offset stop, rest.drop (stop - offset)⟩)
          else if (rest.take length).length = length then
            match data? code (rest.take length) with
            | some data =>
              read stop size (found.set code data) ⟨offset + length, rest.drop length⟩
            | none => none
          else none
        | _ => none
    | _ => none
  else some (found, cursor)
termination_by stop - cursor.offset

def write (options : Options) : Bytes :=
  options.flatMap fun (code, data) =>
    bytes16 code ++ bytes16 (UInt16.ofNat data.length) ++ data

end Options

/-! ## Reading -/

namespace RecordData

/-- Character strings up to offset `stop`. -/
def readStrings (stop : Nat) (cursor : Cursor) : Option (List Bytes × Cursor) :=
  if cursor.offset < stop then
    match cursor.rest with
    | [] => none
    | size :: rest =>
      let string := rest.take size.toNat
      if string.length = size.toNat then
        match readStrings stop ⟨cursor.offset + 1 + size.toNat, rest.drop size.toNat⟩ with
        | some (strings, after) => some (string :: strings, after)
        | none => none
      else none
  else some ([], cursor)
termination_by stop - cursor.offset

/-- The flags of a rewriting rule are letters and digits. -/
def isFlag (byte : UInt8) : Bool :=
  (48 ≤ byte && byte ≤ 57) || (65 ≤ byte && byte ≤ 90) || (97 ≤ byte && byte ≤ 122)

/-- The data of a record of type `kind`, which takes `size` bytes and is not
empty. -/
def readFields (message : Bytes) (kind : RecordType) (size : Nat) (cursor : Cursor) :
    Option (RecordData × Cursor) := do
  if kind = .a then
    let (octets, cursor) ← cursor.take 4
    return (address octets, cursor)
  else if kind = .aaaa then
    let (octets, cursor) ← cursor.take 16
    return (address octets, cursor)
  else if kind = .ns ∨ kind = .cname ∨ kind = .ptr then
    let (name, cursor) ← Name.read message cursor
    return (host name, cursor)
  else if kind = .aname then
    let (name, cursor) ← Name.read message cursor
    return (aname name, cursor)
  else if kind = .mx then
    let (preference, cursor) ← cursor.word
    let (exchange, cursor) ← Name.read message cursor
    return (mail preference exchange, cursor)
  else if kind = .soa then
    let (primary, cursor) ← Name.read message cursor
    let (contact, cursor) ← Name.read message cursor
    let (serial, cursor) ← cursor.long
    let (refresh, cursor) ← cursor.long
    let (retry, cursor) ← cursor.long
    let (expire, cursor) ← cursor.long
    let (minimum, cursor) ← cursor.long
    return (authority primary contact serial refresh retry expire minimum, cursor)
  else if kind = .srv then
    let (priority, cursor) ← cursor.word
    let (weight, cursor) ← cursor.word
    let (socket, cursor) ← cursor.word
    let (target, cursor) ← Name.read message cursor
    return (service priority weight socket target, cursor)
  else if kind = .txt then
    let (strings, cursor) ← readStrings (cursor.offset + size) cursor
    return (text strings, cursor)
  else if kind = .hinfo then
    let (processor, cursor) ← cursor.characterString
    let (system, cursor) ← cursor.characterString
    return (machine processor system, cursor)
  else if kind = .naptr then
    let (order, cursor) ← cursor.word
    let (preference, cursor) ← cursor.word
    let (flags, cursor) ← cursor.characterString
    if !flags.all isFlag then none
    let (services, cursor) ← cursor.characterString
    let (pattern, cursor) ← cursor.characterString
    let (replacement, cursor) ← Name.read message cursor
    return (rewriting order preference flags services pattern replacement, cursor)
  else if kind = .opt then
    let (found, cursor) ← Options.read (cursor.offset + size) size [] cursor
    return (options found, cursor)
  else if kind = .zero ∨ kind = .any ∨ kind = .axfr ∨ kind = .ixfr then
    none
  else
    let (bytes, cursor) ← cursor.take size
    return (raw bytes, cursor)

/-- The data of a record that announces `size` bytes, none when it announces
none.  The bytes have to be there, and reading has to use exactly them. -/
def read (message : Bytes) (kind : RecordType) (size : Nat) (cursor : Cursor) :
    Option (Option RecordData × Cursor) := do
  if size = 0 then return (none, cursor)
  let _ ← cursor.take size
  let (data, after) ← readFields message kind size cursor
  if after.offset = cursor.offset + size then return (some data, after) else none

/-! ## Writing -/

def write : RecordData → Writer
  | address octets => .bytes octets
  | host name => name.write .shared
  | aname name => name.lower.write .whole
  | mail preference exchange => .word preference ++ exchange.write .shared
  | authority primary contact serial refresh retry expire minimum =>
    primary.write .shared ++ contact.write .shared ++ .long serial ++ .long refresh ++
      .long retry ++ .long expire ++ .long minimum
  | service priority weight socket target =>
    .word priority ++ .word weight ++ .word socket ++ target.lower.write .whole
  | text strings => .bytes (strings.flatMap characterBytes)
  | machine processor system => .bytes (characterBytes processor ++ characterBytes system)
  | rewriting order preference flags services pattern replacement =>
    .word order ++ .word preference ++
      .bytes (characterBytes flags ++ characterBytes services ++ characterBytes pattern) ++
      replacement.write .whole
  | options found => .bytes found.write
  | raw bytes => .bytes bytes

end RecordData

end DnsForwarder
