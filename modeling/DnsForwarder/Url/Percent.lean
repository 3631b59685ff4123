import DnsForwarder.Text.Digits

/-!
# Percent encoding

A byte that cannot stand for itself is written as a percent sign and two
hexadecimal digits; a character outside ASCII is encoded byte by byte in UTF-8.
Which characters of ASCII can stand for themselves depends on the place in the
URL: `fragment`, `query`, `path` and `userinfo` say which cannot.
-/

namespace DnsForwarder.Url

def isControl (c : Char) : Bool := c.toNat < 32 || c.toNat == 127

/-! ## Characters that are encoded -/

def fragmentSet (c : Char) : Bool := isControl c || c ∈ [' ', '"', '<', '>', '`']

def querySet (c : Char) : Bool := isControl c || c ∈ [' ', '"', '#', '<', '>', '\'']

def pathSet (c : Char) : Bool := fragmentSet c || c ∈ ['#', '?', '\x7b', '\x7d']

def userinfoSet (c : Char) : Bool :=
  pathSet c || c ∈ ['/', ':', ';', '=', '@', '[', '\\', ']', '^', '|']

/-! ## Writing and reading -/

def encodeByte (byte : UInt8) : List Char :=
  ['%', (Text.digitChar (byte.toNat / 16)).toUpper, (Text.digitChar (byte.toNat % 16)).toUpper]

def encodeCharacter (set : Char → Bool) (c : Char) : List Char :=
  if c.toNat < 128 ∧ ¬set c then [c] else (String.utf8EncodeChar c).flatMap encodeByte

def encode (set : Char → Bool) (text : List Char) : List Char :=
  text.flatMap (encodeCharacter set)

/-- The bytes of a text, each encoded byte decoded; a percent sign without two
digits stands for itself. -/
def decode : List Char → List UInt8
  | [] => []
  | '%' :: hi :: lo :: rest =>
    match Text.ofDigits? 16 [hi, lo] with
    | some byte => UInt8.ofNat byte :: decode rest
    | none => 37 :: decode (hi :: lo :: rest)
  | c :: rest => String.utf8EncodeChar c ++ decode rest

/-- The text that bytes are in UTF-8. -/
def ofUtf8? (bytes : List UInt8) : Option (List Char) :=
  (String.fromUTF8? ⟨bytes.toArray⟩).map String.toList

end DnsForwarder.Url
