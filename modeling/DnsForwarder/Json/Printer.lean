import DnsForwarder.Json.Basic
import DnsForwarder.Text.Digits

/-!
# Writing JSON

The compact form has no blanks.  The indented form gives each item and each
field a line of its own, two blanks deeper than the line that opens it; an
empty array and an empty object stay on their line.

Quotes, backslashes and control characters are escaped, the control characters
that have a short escape by that one; all else stands for itself.
-/

namespace DnsForwarder.Json

def escape (c : Char) : List Char :=
  if c = '"' then ['\\', '"']
  else if c = '\\' then ['\\', '\\']
  else if c = '\x08' then ['\\', 'b']
  else if c = '\x0c' then ['\\', 'f']
  else if c = '\n' then ['\\', 'n']
  else if c = '\r' then ['\\', 'r']
  else if c = '\t' then ['\\', 't']
  else if c.toNat < 32 then
    ['\\', 'u', '0', '0', Text.digitChar (c.toNat / 16), Text.digitChar (c.toNat % 16)]
  else [c]

def quoted (text : String) : List Char := '"' :: text.toList.flatMap escape ++ ['"']

def decimalText (digits exponent : Int) : List Char :=
  Text.integer digits ++ 'e' :: Text.integer exponent

/-- A line break and the blanks before the text at this depth. -/
def lineBreak (depth : Nat) : List Char := '\n' :: List.replicate (2 * depth) ' '

mutual

def compactText : Json → List Char
  | null => "null".toList
  | bool value => (if value then "true" else "false").toList
  | integer value => Text.integer value
  | decimal digits exponent => decimalText digits exponent
  | string value => quoted value
  | array items => '[' :: compactItems items ++ [']']
  | object fields => '\x7b' :: compactFields fields ++ ['\x7d']

def compactItems : List Json → List Char
  | [] => []
  | [item] => compactText item
  | item :: rest => compactText item ++ ',' :: compactItems rest

def compactFields : List (String × Json) → List Char
  | [] => []
  | [(name, value)] => quoted name ++ ':' :: compactText value
  | (name, value) :: rest => quoted name ++ ':' :: compactText value ++ ',' :: compactFields rest

end

mutual

def indentedText (depth : Nat) : Json → List Char
  | null => "null".toList
  | bool value => (if value then "true" else "false").toList
  | integer value => Text.integer value
  | decimal digits exponent => decimalText digits exponent
  | string value => quoted value
  | array [] => ['[', ']']
  | array (item :: rest) =>
    '[' :: lineBreak (depth + 1) ++ indentedText (depth + 1) item ++
      indentedItems (depth + 1) rest ++ lineBreak depth ++ [']']
  | object [] => ['\x7b', '\x7d']
  | object ((name, value) :: rest) =>
    '\x7b' :: lineBreak (depth + 1) ++ quoted name ++ ':' :: ' ' ::
      indentedText (depth + 1) value ++
      indentedFields (depth + 1) rest ++ lineBreak depth ++ ['\x7d']

def indentedItems (depth : Nat) : List Json → List Char
  | [] => []
  | item :: rest =>
    ',' :: lineBreak depth ++ indentedText depth item ++ indentedItems depth rest

def indentedFields (depth : Nat) : List (String × Json) → List Char
  | [] => []
  | (name, value) :: rest =>
    ',' :: lineBreak depth ++ quoted name ++ ':' :: ' ' :: indentedText depth value ++
      indentedFields depth rest

end

def compact (value : Json) : String := String.ofList (compactText value)

def indented (value : Json) : String := String.ofList (indentedText 0 value)

end DnsForwarder.Json
